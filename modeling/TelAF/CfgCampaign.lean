import Mathlib.Tactic.SplitIfs
import TelAF.TransitionRuns
import TelAF.CfgStorage

/-!
# Update campaigns over all runs

A run is a sequence of calls, each with the behaviour of its environment. Beside the service
stand the configuration of the last successful activation or rollback, the one before the last
activation, whether the backup that the update made is complete and still there, and whether an
activation failed that nothing followed. A state is consistent if the active file and the tree
have that configuration, the storages are locked, a failed activation can be rolled back, and
calls with a working environment lead to where an update is accepted.
-/

namespace TelAF.CfgStorage

open TransitionRuns Option Bool

structure Campaign where
  mss : Mss
  active : Option Config
  previous : Option Config
  backedUp : Bool
  failed : Bool

inductive Action where
  | update (env : Env) (version : String)
  | activate (env : Env)
  | verifyActivation (env : Env)
  | cancel (env : Env)
  | rollback (env : Env)
  | commit (env : Env)

def Action.env : Action → Env
  | update env _ => env
  | activate env => env
  | verifyActivation env => env
  | cancel env => env
  | rollback env => env
  | commit env => env

variable (setup : Setup)

/-- The operation is begun in one of its states. -/
def permitted (env : Env) (s : Mss) (states : List UpdateState) : Bool :=
  env.stateRead && s.campaign.any fun state => decide (state ∈ states)

/-- An operation that leaves the active configuration; with its success a failed activation is
over. -/
def Campaign.goOn (t : Campaign) (r : Mss × Result) : Campaign :=
  { t with mss := r.1, failed := t.failed && decide (r.2 ≠ .ok) }

/-- The copy to the backup is complete, or there is nothing to copy and no other backup. -/
def Env.BacksUp (env : Env) (s : Mss) : Prop :=
  s.configFile.elim s.backupFile (fun c => env.backedUp.target c s.backupFile) = s.configFile
deriving Decidable

/-- The operation comes to where it deletes the backup, and deletes it. -/
def Env.discards (env : Env) (s : Mss) (states : List UpdateState) : Bool :=
  permitted env s states && env.unlockCfg && env.unlockRfs && env.backupDeleted

def Campaign.update (t : Campaign) (env : Env) (version : String) : Campaign :=
  { t.goOn (CfgStorage.update setup env t.mss version) with
    backedUp :=
      if env.stateRead ∧ acceptsUpdate t.mss then decide (env.BacksUp t.mss) else t.backedUp }

/-- Without a backup a rollback goes back to no configuration. -/
def Campaign.cancel (t : Campaign) (env : Env) : Campaign :=
  { t.goOn (CfgStorage.cancel env t.mss) with
    backedUp :=
      if env.discards t.mss [.updateCompleted, .updateFailed] then decide (t.active = none)
      else t.backedUp }

def Campaign.commit (t : Campaign) (env : Env) : Campaign :=
  { t.goOn (CfgStorage.commit env t.mss) with
    backedUp :=
      if env.discards t.mss [.activateCompleted, .rollbackCompleted] then
        decide (t.previous = none)
      else t.backedUp }

def Campaign.activate (t : Campaign) (env : Env) : Campaign :=
  let r := CfgStorage.activate setup env t.mss
  if r.2 = .ok then ⟨r.1, t.mss.updateFile, t.active, t.backedUp, false⟩
  else { t with mss := r.1, failed := t.failed || permitted env t.mss [.updateCompleted] }

def Campaign.rollback (t : Campaign) (env : Env) : Campaign :=
  let r := CfgStorage.rollback env t.mss
  if r.2 = .ok then ⟨r.1, t.previous, t.previous, t.backedUp, false⟩ else { t with mss := r.1 }

def step (t : Campaign) : Action → Option Campaign
  | .update env version => some (t.update setup env version)
  | .activate env => some (t.activate setup env)
  | .verifyActivation env => some (t.goOn (verifyActivation setup env t.mss))
  | .cancel env => some (t.cancel env)
  | .rollback env => some (t.rollback env)
  | .commit env => some (t.commit env)

structure Env.Works (env : Env) : Prop where
  stateRead : env.stateRead = true
  stateWritten : env.stateWritten = true
  unlockCfg : env.unlockCfg = true
  unlockRfs : env.unlockRfs = true
  lockCfg : env.lockCfg = true
  lockRfs : env.lockRfs = true
  copied : env.copied = .done
  backedUp : env.backedUp = .done
  hashed : env.hashed = true
  secured : env.secured = true
  treeCleared : env.treeCleared = true
  imported : env.imported = true
  versionRead : env.versionRead = true
  updateDeleted : env.updateDeleted = true
  backupDeleted : env.backupDeleted = true
  configDeleted : env.configDeleted = true

structure Consistent (t : Campaign) : Prop where
  file : t.mss.configFile = t.active
  tree : t.mss.tree = t.active
  locked : t.mss.cfgLocked = true ∧ t.mss.rfsLocked = true
  undone : t.failed = true → ∀ env : Env, env.Works →
    (rollback env t.mss).2 = .ok ∧ (rollback env t.mss).1.configFile = t.active ∧
      (rollback env t.mss).1.tree = t.active
  returns : ∃ actions : List Action, (∀ a ∈ actions, a.env.Works) ∧
    ∃ u, exec (step setup) t actions = some u ∧ acceptsUpdate u.mss = true

/-- No campaign is under way, and what is active is in the file and in the tree. -/
structure Start (t : Campaign) : Prop where
  campaign : t.mss.campaign = none
  file : t.mss.configFile = t.active
  tree : t.mss.tree = t.active
  locked : t.mss.cfgLocked = true ∧ t.mss.rfsLocked = true
  failed : t.failed = false

/-- Either no storage is unlocked or both are, and both are locked again. -/
def Env.LocksWell (env : Env) : Prop :=
  env.unlockCfg = true → env.unlockRfs = true ∧ env.lockCfg = true ∧ env.lockRfs = true
deriving Decidable

def Env.Activates (env : Env) (s : Mss) : Prop :=
  env.unlockCfg = true ∧ env.unlockRfs = true ∧ env.lockCfg = true ∧ env.lockRfs = true ∧
    s.updateFile.isSome = true ∧ env.copied = .done ∧ env.hashed = true ∧
      env.secured = true ∧
    env.treeCleared = true ∧ env.imported = true ∧ env.stateWritten = true
deriving Decidable

/-- The rollback fails before it changes anything, or all its steps succeed and the backup is
the one that the update made. -/
def Env.RollsBackFrom (env : Env) (file : Option Config) (backedUp : Bool) : Option Config → Prop
  | some backup =>
    (env.copied.output ≠ 0 ∧ env.copied.target backup file = file) ∨
      (env.copied = .done ∧ env.treeCleared = true ∧ env.imported = true ∧
        env.versionRead = true ∧ backup.version.isSome = true ∧ env.stateWritten = true ∧
        backedUp = true)
  | none =>
    (env.configDeleted = false ∧ env.treeCleared = false) ∨
      (env.configDeleted = true ∧ env.treeCleared = true ∧ env.stateWritten = true ∧
        backedUp = true)

def Env.RollsBack (env : Env) (t : Campaign) : Prop :=
  env.RollsBackFrom t.mss.configFile t.backedUp t.mss.backupFile

def Careful (t : Campaign) : Action → Prop
  | .update env _ => env.stateRead = true → acceptsUpdate t.mss = true → env.LocksWell
  | .activate env => permitted env t.mss [.updateCompleted] = true → env.Activates t.mss
  | .verifyActivation env => permitted env t.mss [.activateCompleted] = true →
    env.LocksWell ∧ (env.unlockCfg = true → checkActivatedConfigHash setup env t.mss = .ok →
      env.treeCleared = true → env.imported = true)
  | .cancel env => permitted env t.mss [.updateCompleted, .updateFailed] = true → env.LocksWell
  | .rollback env => permitted env t.mss [.activateCompleted, .activateFailed] = true →
    env.LocksWell ∧ (env.unlockCfg = true → env.RollsBack t)
  | .commit env =>
    permitted env t.mss [.activateCompleted, .rollbackCompleted] = true → env.LocksWell

variable {state : UpdateState}

section Rules

variable {env : Env} {s : Mss} {r : Mss × Result} {next : Mss → Mss × Result}

structure Mss.Same (s t : Mss) : Prop where
  file : t.configFile = s.configFile
  tree : t.tree = s.tree

theorem Mss.Same.refl (s : Mss) : s.Same s := ⟨rfl, rfl⟩

theorem Mss.Same.trans {s t u : Mss} (h : s.Same t) (h' : t.Same u) : s.Same u :=
  ⟨h'.file.trans h.file, h'.tree.trans h.tree⟩

/-- Every state but the failed ones of activations, cancellations, rollbacks and commits. -/
def Mss.Tracked (s : Mss) : Prop :=
  ∀ state, s.campaign = some state → state ∈ [.updateCompleted, .updateFailed,
    .activateCompleted, .cancelCompleted, .rollbackCompleted, .commitCompleted]

theorem Mss.Tracked.congr {t : Mss} (h : s.Tracked) (heq : t.campaign = s.campaign) : t.Tracked := by
  intro state hst
  exact h state (heq ▸ hst)

structure Mss.Kept (s t : Mss) : Prop extends s.Same t where
  tracked : s.Tracked → t.Tracked

theorem Mss.Kept.refl (s : Mss) : s.Kept s := ⟨.refl s, id⟩

theorem Mss.Kept.trans {s t u : Mss} (h : s.Kept t) (h' : t.Kept u) : s.Kept u :=
  ⟨h.toSame.trans h'.toSame, fun hs => h'.tracked (h.tracked hs)⟩

theorem kept_lockStorage (env : Env) (s : Mss) : s.Kept (lockStorage env s).1 := by
  unfold lockStorage
  split_ifs <;> exact ⟨⟨rfl, rfl⟩, id⟩

theorem kept_unlockStorage (env : Env) (s : Mss) : s.Kept (unlockStorage env s).1 := by
  unfold unlockStorage
  split_ifs <;> exact ⟨⟨rfl, rfl⟩, id⟩

theorem kept_setCampaignState (env : Env) (s : Mss)
    (hst : state ∈ [.updateCompleted, .updateFailed, .activateCompleted, .cancelCompleted,
      .rollbackCompleted, .commitCompleted]) : s.Kept (setUpdateCampaignState env s state).1 := by
  unfold setUpdateCampaignState
  split_ifs
  · refine ⟨⟨rfl, rfl⟩, fun _ other hoth => ?_⟩
    exact some.inj hoth ▸ hst
  · exact ⟨⟨rfl, rfl⟩, id⟩

theorem kept_andThen (h : s.Kept r.1) (hnext : ∀ t, s.Kept t → s.Kept (next t).1) :
    s.Kept (andThen r next).1 := by
  unfold andThen
  split_ifs
  · exact hnext _ h
  · exact h

theorem kept_orLocked (h : s.Kept r.1) (hnext : ∀ t, s.Kept t → s.Kept (next t).1) :
    s.Kept (orLocked env r next).1 := by
  unfold orLocked
  split_ifs
  · exact hnext _ h
  · exact h.trans (kept_lockStorage env r.1)

theorem kept_orFailed (h : s.Kept r.1) (hnext : ∀ t, s.Kept t → s.Kept (next t).1) :
    s.Kept (orFailed env r next).1 := by
  unfold orFailed
  split_ifs
  · exact hnext _ h
  · exact (h.trans (kept_setCampaignState env r.1 (by decide))).trans (kept_lockStorage env _)

theorem kept_finish (env : Env) {s t : Mss} (h : s.Kept t)
    (hst : state ∈ [.updateCompleted, .updateFailed, .activateCompleted, .cancelCompleted,
      .rollbackCompleted, .commitCompleted]) : s.Kept (finish env t state).1 := by
  apply kept_andThen (h.trans (kept_lockStorage env t))
  intro u hu
  exact hu.trans (kept_setCampaignState env u hst)

variable {states : List UpdateState}

theorem kept_startIn (hnext : ∀ t, s.Kept t → s.Kept (next t).1) :
    s.Kept (startIn env s states next).1 := by
  unfold startIn
  by_cases hread : env.stateRead
  · rw [if_neg (not_not.2 hread)]
    rcases s.campaign with _ | state
    · exact .refl s
    dsimp only
    split_ifs
    · exact kept_andThen (kept_unlockStorage env s) hnext
    · exact .refl s
  · rw [if_pos hread]
    exact .refl s

/-! ### Locks -/

def Mss.Locked (s : Mss) : Prop := s.cfgLocked = true ∧ s.rfsLocked = true

theorem lockStorage_of_works (s : Mss) (hcfg : env.lockCfg = true) (hrfs : env.lockRfs = true) :
    lockStorage env s = ({ s with cfgLocked := true, rfsLocked := true }, .ok) := by
  simp [lockStorage, hcfg, hrfs]

def Env.Locks (env : Env) : Prop := env.lockCfg = true ∧ env.lockRfs = true

theorem locked_lockStorage (hlks : env.Locks) (s : Mss) : (lockStorage env s).1.Locked := by
  rw [lockStorage_of_works s hlks.1 hlks.2]
  exact ⟨rfl, rfl⟩

theorem locked_setCampaignState (h : s.Locked) (state : UpdateState) :
    (setUpdateCampaignState env s state).1.Locked := by
  unfold setUpdateCampaignState
  split_ifs
  all_goals exact h

theorem locked_finish (hlks : env.Locks) (s : Mss) (state : UpdateState) :
    (finish env s state).1.Locked := by
  rw [finish, lockStorage_of_works s hlks.1 hlks.2, andThen]
  exact locked_setCampaignState ⟨rfl, rfl⟩ state

theorem locked_orLocked (hlks : env.Locks) (hnext : ∀ t, (next t).1.Locked) :
    (orLocked env r next).1.Locked := by
  unfold orLocked
  split_ifs
  · exact hnext r.1
  · exact locked_lockStorage hlks r.1

theorem locked_orFailed (hlks : env.Locks) (hnext : ∀ t, (next t).1.Locked) :
    (orFailed env r next).1.Locked := by
  unfold orFailed
  split_ifs
  · exact hnext r.1
  · exact locked_lockStorage hlks _

/-- With the storages unlocked only together, what follows has to lock them. -/
theorem locked_andThen_unlock (h : s.Locked) (hwell : env.LocksWell)
    (hnext : env.Locks → ∀ t, (next t).1.Locked) :
    (andThen (unlockStorage env s) next).1.Locked := by
  by_cases hcfg : env.unlockCfg = true
  · obtain ⟨hrfs, hlks⟩ := hwell hcfg
    have hunlo : unlockStorage env s = ({ s with cfgLocked := false, rfsLocked := false }, .ok) := by
      simp [unlockStorage, hcfg, hrfs]
    rw [hunlo, andThen]
    exact hnext hlks _
  · have hunlo : unlockStorage env s = (s, .fault) := by simp [unlockStorage, hcfg]
    rw [hunlo]
    exact h

theorem locked_startIn (h : s.Locked) (hwell : permitted env s states = true → env.LocksWell)
    (hnext : env.Locks → ∀ t, (next t).1.Locked) : (startIn env s states next).1.Locked := by
  unfold startIn
  by_cases hread : env.stateRead
  · rw [if_neg (not_not.2 hread)]
    rcases hst : s.campaign with _ | state
    · exact h
    dsimp only
    by_cases hin : state ∈ states
    · rw [if_neg (not_not.2 hin)]
      exact locked_andThen_unlock h (hwell (by simp [permitted, hread, hst, hin])) hnext
    · rw [if_pos hin]
      exact h
  · rw [if_pos hread]
    exact h

theorem campaign_lockStorage (env : Env) (s : Mss) :
    (lockStorage env s).1.campaign = s.campaign := by
  unfold lockStorage
  split_ifs <;> rfl

theorem campaign_unlockStorage (env : Env) (s : Mss) :
    (unlockStorage env s).1.campaign = s.campaign := by
  unfold unlockStorage
  split_ifs <;> rfl

theorem campaign_finish (env : Env) (s : Mss) (state : UpdateState) :
    ((finish env s state).1.campaign = s.campaign ∨
        (finish env s state).1.campaign = some state) ∧
      (finish env s state).1.backupFile = s.backupFile := by
  have hbkp : (lockStorage env s).1.backupFile = s.backupFile := by
    unfold lockStorage
    split_ifs <;> rfl
  unfold finish andThen setUpdateCampaignState
  split_ifs
  · exact ⟨.inr rfl, hbkp⟩
  all_goals exact ⟨.inl (campaign_lockStorage env s), hbkp⟩

/-! ### Backups -/

/-- No backup is waited for, and that of the update before is as it was. -/
structure Mss.Untouched (s t : Mss) : Prop where
  campaign : t.campaign ≠ some .updateCompleted ∧ t.campaign ≠ some .activateCompleted
  configFile : t.configFile = s.configFile
  backupFile : t.backupFile = s.backupFile

/-- With an update completed there is the backup that it made. -/
def Env.Backs (env : Env) (s : Mss) (r : Mss × Result) : Prop :=
  (r.1.campaign ≠ some .updateCompleted ∧ r.1.campaign ≠ some .activateCompleted) ∨
    (r.1.campaign = some .updateCompleted ∧
      (env.BacksUp s → r.1.backupFile = r.1.configFile))

theorem untouched_lockStorage {t : Mss} (h : s.Untouched t) :
    s.Untouched (lockStorage env t).1 := by
  unfold lockStorage
  split_ifs
  all_goals exact ⟨h.campaign, h.configFile, h.backupFile⟩

theorem untouched_updateFailed {t : Mss} (h : s.Untouched t) :
    s.Untouched (setUpdateCampaignState env t .updateFailed).1 := by
  unfold setUpdateCampaignState
  split_ifs
  · exact ⟨by simp, h.configFile, h.backupFile⟩
  · exact h

theorem backs_orLocked (h : s.Untouched r.1)
    (hnext : ∀ t, s.Untouched t → env.Backs s (next t)) : env.Backs s (orLocked env r next) := by
  unfold orLocked
  split_ifs
  · exact hnext _ h
  · exact .inl (untouched_lockStorage h).campaign

theorem backs_orFailed (h : s.Untouched r.1)
    (hnext : ∀ t, s.Untouched t → env.Backs s (next t)) : env.Backs s (orFailed env r next) := by
  unfold orFailed
  split_ifs
  · exact hnext _ h
  · exact .inl (untouched_lockStorage (untouched_updateFailed h)).campaign

end Rules

section Operations

variable (env : Env) (s : Mss) (version : String)

theorem kept_createBackup : s.Kept (createBackup env s).1 := by
  unfold createBackup
  split <;> exact ⟨⟨rfl, rfl⟩, id⟩

theorem kept_getFiles (maxFiles : Nat) : s.Kept (getFiles env s maxFiles).1 := by
  unfold getFiles
  cases env.listing with
  | none => exact .refl s
  | some names =>
    dsimp only
    split_ifs <;> exact ⟨⟨rfl, rfl⟩, id⟩

variable {s}

theorem kept_backUpAndFinish {t : Mss} (h : s.Kept t) : s.Kept (backUpAndFinish env t).1 := by
  have hback := h.trans (kept_createBackup env t)
  unfold backUpAndFinish
  dsimp only
  split_ifs
  · exact (hback.trans (kept_lockStorage env _)).trans (kept_setCampaignState env _ (by decide))
  · apply kept_finish env _ (by decide)
    exact ⟨⟨hback.file, hback.tree⟩, hback.tracked⟩

theorem locked_backUpAndFinish {env : Env} (hlks : env.Locks) (t : Mss) :
    (backUpAndFinish env t).1.Locked := by
  unfold backUpAndFinish
  dsimp only
  split_ifs
  · exact locked_setCampaignState (locked_lockStorage hlks _) _
  · exact locked_finish hlks _ _

theorem createBackup_spec {t : Mss} (h : s.Untouched t) :
    (createBackup env t).1.campaign = t.campaign ∧
      (env.BacksUp s → (createBackup env t).1.backupFile = (createBackup env t).1.configFile) := by
  unfold Env.BacksUp
  rw [← h.configFile, ← h.backupFile]
  unfold createBackup
  cases hfile : t.configFile with
  | none =>
    refine ⟨rfl, fun hbac => ?_⟩
    rw [hfile]
    exact hbac
  | some c =>
    exact ⟨rfl, id⟩

theorem backs_backUpAndFinish {t : Mss} (h : s.Untouched t) :
    env.Backs s (backUpAndFinish env t) := by
  obtain ⟨hcamp, hbac⟩ := createBackup_spec env h
  have hstil : (createBackup env t).1.Untouched (createBackup env t).1 :=
    ⟨by rw [hcamp]; exact h.campaign, rfl, rfl⟩
  unfold backUpAndFinish
  dsimp only
  split_ifs
  · exact .inl (untouched_updateFailed (untouched_lockStorage hstil)).campaign
  have hlkd : (createBackup env t).1.Untouched
      (lockStorage env { (createBackup env t).1 with configFileData := noFiles }).1 :=
    untouched_lockStorage ⟨hstil.campaign, rfl, rfl⟩
  unfold finish andThen setUpdateCampaignState
  split_ifs
  · refine .inr ⟨rfl, fun hmade => ?_⟩
    exact (hlkd.backupFile.trans (hbac hmade)).trans hlkd.configFile.symm
  all_goals exact .inl hlkd.campaign

theorem backs_update (hacc : acceptsUpdate s = true) (hread : env.stateRead = true) :
    env.Backs s (update setup env s version) := by
  have hsta : s.campaign ≠ some .updateCompleted ∧ s.campaign ≠ some .activateCompleted := by
    obtain hst | hst | hst := of_decide_eq_true hacc
    all_goals simp [hst]
  have hunl : s.Untouched (unlockStorage env s).1 := by
    unfold unlockStorage
    split_ifs
    all_goals exact ⟨hsta, rfl, rfl⟩
  unfold update
  rw [if_neg (not_not.2 hread), if_neg (not_not.2 hacc), andThen]
  split_ifs
  · apply backs_orLocked
    · unfold getFiles
      cases env.listing with
      | none => exact hunl
      | some names =>
        dsimp only
        split_ifs
        all_goals exact ⟨hunl.campaign, hunl.configFile, hunl.backupFile⟩
    intro t ht
    apply backs_orLocked ht
    intro t ht
    apply backs_orFailed ⟨ht.campaign, ht.configFile, ht.backupFile⟩
    intro t ht
    apply backs_orFailed ⟨ht.campaign, ht.configFile, ht.backupFile⟩
    intro t ht
    exact backs_backUpAndFinish env ht
  · exact .inl hunl.campaign

theorem kept_update : s.Kept (update setup env s version).1 := by
  unfold update
  split_ifs
  · apply kept_andThen (kept_unlockStorage env s)
    intro t ht
    apply kept_orLocked (ht.trans (kept_getFiles env t _))
    intro t ht
    apply kept_orLocked ht
    intro t ht
    apply kept_orFailed ⟨⟨ht.file, ht.tree⟩, ht.tracked⟩
    intro t ht
    apply kept_orFailed ⟨⟨ht.file, ht.tree⟩, ht.tracked⟩
    intro t ht
    exact kept_backUpAndFinish env ht
  all_goals exact .refl s

theorem locked_update (h : s.Locked)
    (hwell : env.stateRead = true → acceptsUpdate s = true → env.LocksWell) :
    (update setup env s version).1.Locked := by
  unfold update
  split_ifs with hread hacc
  · apply locked_andThen_unlock h (hwell hread hacc)
    intro hlks t
    apply locked_orLocked hlks
    intro t
    apply locked_orLocked hlks
    intro t
    apply locked_orFailed hlks
    intro t
    apply locked_orFailed hlks
    intro t
    exact locked_backUpAndFinish hlks t
  all_goals exact h

theorem kept_cancel : s.Kept (cancel env s).1 := by
  apply kept_startIn
  intro t ht
  apply kept_finish env _ (by decide)
  exact ⟨⟨ht.file, ht.tree⟩, ht.tracked⟩

theorem kept_commit : s.Kept (commit env s).1 := by
  apply kept_startIn
  intro t ht
  apply kept_finish env _ (by decide)
  exact ⟨⟨ht.file, ht.tree⟩, ht.tracked⟩

theorem locked_cancel (h : s.Locked)
    (hwell : permitted env s [.updateCompleted, .updateFailed] = true → env.LocksWell) :
    (cancel env s).1.Locked :=
  locked_startIn h hwell fun hlks _ => locked_finish hlks _ _

theorem locked_commit (h : s.Locked)
    (hwell : permitted env s [.activateCompleted, .rollbackCompleted] = true → env.LocksWell) :
    (commit env s).1.Locked :=
  locked_startIn h hwell fun hlks _ => locked_finish hlks _ _

end Operations

section Begun

variable {env : Env} {s : Mss} {states : List UpdateState} {next : Mss → Mss × Result}

theorem startIn_of_permitted (h : permitted env s states = true) :
    startIn env s states next = andThen (unlockStorage env s) next := by
  simp only [permitted, and_eq_true, any_eq_true, decide_eq_true_eq] at h
  obtain ⟨hread, state, hst, hin⟩ := h
  simp [startIn, hread, hst, hin]

theorem campaign_of_permitted (h : permitted env s [state] = true) : s.campaign = some state := by
  simp only [permitted, and_eq_true, any_eq_true, decide_eq_true_eq,
    List.mem_singleton] at h
  obtain ⟨-, other, hoth, heq⟩ := h
  rw [hoth, heq]

theorem startIn_of_not_permitted (next : Mss → Mss × Result)
    (h : permitted env s states = false) :
    (startIn env s states next).1 = s ∧ (startIn env s states next).2 ≠ .ok := by
  unfold startIn
  by_cases hread : env.stateRead
  · cases hst : s.campaign with
    | none => simp [hread]
    | some state =>
      have hout : state ∉ states := by simpa [permitted, hread, hst] using h
      simp [hread, hout]
  · simp [hread]

theorem unlockStorage_of_works (s : Mss) (hcfg : env.unlockCfg = true)
    (hrfs : env.unlockRfs = true) :
    unlockStorage env s = ({ s with cfgLocked := false, rfsLocked := false }, .ok) := by
  simp [unlockStorage, hcfg, hrfs]

theorem unlockStorage_of_fails (s : Mss) (hcfg : ¬ env.unlockCfg = true) :
    unlockStorage env s = (s, .fault) := by
  simp [unlockStorage, hcfg]

theorem finish_of_works (s : Mss) (hlks : env.Locks) (hwrtn : env.stateWritten = true)
    (state : UpdateState) :
    finish env s state =
      ({ s with cfgLocked := true, rfsLocked := true, campaign := some state }, .ok) := by
  simp [finish, lockStorage_of_works s hlks.1 hlks.2, andThen, setUpdateCampaignState, hwrtn]

theorem orLocked_ok {t : Mss} {result : Result} (h : result = .ok) :
    orLocked env (t, result) next = next t := by
  rw [orLocked, if_pos h]

theorem activate_of_activates {u : Config}
    (hperm : permitted env s [.updateCompleted] = true) (hupd : s.updateFile = some u)
    (h : env.Activates s) :
    activate setup env s =
      ({ s with
        cfgLocked := true
        rfsLocked := true
        campaign := some .activateCompleted
        configFile := some u
        tree := some u
        activatedHash := some (setup.sha256 u) }, .ok) := by
  obtain ⟨hcfg, hrfs, hlock, hloc, -, hcopd, hhash, hsecu, hclrd, himpo,
    hwrtn⟩ := h
  rw [activate, startIn_of_permitted hperm, unlockStorage_of_works s hcfg hrfs]
  simp [andThen, orLocked, syncFile, hupd, hcopd, Copy.target, Copy.output,
    setActivatedConfigHash, hhash, hsecu, clearTree, hclrd, importTree, himpo,
    finish_of_works _ ⟨hlock, hloc⟩ hwrtn]

/-- A verification puts the active file into the tree, or leaves the tree. -/
theorem verifyActivation_spec (hlkd : s.Locked)
    (hwell : permitted env s [.activateCompleted] = true → env.LocksWell ∧
      (env.unlockCfg = true → checkActivatedConfigHash setup env s = .ok →
        env.treeCleared = true → env.imported = true)) :
    (verifyActivation setup env s).1.configFile = s.configFile ∧
      ((verifyActivation setup env s).1.tree = s.tree ∨
        (verifyActivation setup env s).1.tree = s.configFile) ∧
      (verifyActivation setup env s).1.Locked ∧
      (verifyActivation setup env s).1.campaign = s.campaign ∧
      (verifyActivation setup env s).1.backupFile = s.backupFile := by
  by_cases hperm : permitted env s [.activateCompleted] = true
  · rw [verifyActivation, startIn_of_permitted hperm]
    obtain ⟨hlks, himp⟩ := hwell hperm
    by_cases hcfg : env.unlockCfg = true
    swap
    · rw [unlockStorage_of_fails s hcfg]
      exact ⟨rfl, .inl rfl, hlkd, rfl, rfl⟩
    obtain ⟨hrfs, hlock, hloc⟩ := hlks hcfg
    rw [unlockStorage_of_works s hcfg hrfs, andThen]
    by_cases hchec : checkActivatedConfigHash setup env s = .ok
    swap
    · have hchec' : ¬ checkActivatedConfigHash setup env
          { s with cfgLocked := false, rfsLocked := false } = .ok := hchec
      simp [orLocked, hchec', lockStorage_of_works _ hlock hloc, Mss.Locked]
    obtain ⟨c, hfile⟩ : ∃ c, s.configFile = some c := by
      cases hfile : s.configFile with
      | none => simp [checkActivatedConfigHash, hfile] at hchec
      | some c => exact ⟨c, rfl⟩
    have hchec' : checkActivatedConfigHash setup env
        { s with cfgLocked := false, rfsLocked := false } = .ok := hchec
    rw [orLocked_ok hchec']
    by_cases hclrd : env.treeCleared = true
    · have himpo := himp hcfg hchec hclrd
      simp [orLocked, clearTree, hclrd, importTree, hfile, himpo,
        lockStorage_of_works _ hlock hloc, Mss.Locked]
    · simp [orLocked, clearTree, hclrd, lockStorage_of_works _ hlock hloc, Mss.Locked]
  · have hsame : (verifyActivation setup env s).1 = s :=
      (startIn_of_not_permitted _ (eq_false_iff.2 hperm)).1
    rw [hsame]
    exact ⟨rfl, .inl rfl, hlkd, rfl, rfl⟩

/-- A rollback leaves the active configuration, or restores the one before the activation. -/
theorem rollback_spec {t : Campaign} (hlkd : t.mss.Locked)
    (hbkp : permitted env t.mss [.activateCompleted, .activateFailed] = true →
      t.backedUp = true → t.mss.backupFile = t.previous)
    (hwell : permitted env t.mss [.activateCompleted, .activateFailed] = true → env.LocksWell ∧
      (env.unlockCfg = true → env.RollsBack t)) :
    (rollback env t.mss).1.Locked ∧
      (((rollback env t.mss).2 ≠ .ok ∧ t.mss.Same (rollback env t.mss).1 ∧
          (rollback env t.mss).1.campaign = t.mss.campaign ∧
          (rollback env t.mss).1.backupFile = t.mss.backupFile) ∨
        ((rollback env t.mss).2 = .ok ∧ (rollback env t.mss).1.configFile = t.previous ∧
          (rollback env t.mss).1.tree = t.previous ∧
          (rollback env t.mss).1.campaign = some .rollbackCompleted)) := by
  by_cases hperm : permitted env t.mss [.activateCompleted, .activateFailed] = true
  · rw [rollback, startIn_of_permitted hperm]
    obtain ⟨hlks, hroll⟩ := hwell hperm
    by_cases hcfg : env.unlockCfg = true
    swap
    · rw [unlockStorage_of_fails _ hcfg]
      exact ⟨hlkd, .inl ⟨by simp [andThen], Mss.Same.refl _, rfl, rfl⟩⟩
    obtain ⟨hrfs, hlks⟩ := hlks hcfg
    have hroll := hroll hcfg
    rw [unlockStorage_of_works _ hcfg hrfs, andThen, rollbackUnlocked]
    unfold Env.RollsBack at hroll
    cases hfile : t.mss.backupFile with
    | none =>
      rw [hfile] at hroll
      obtain ⟨hdel, hclrd⟩ | ⟨hdel, hclrd, hwrtn, hback⟩ := hroll
      · simp [orLocked, clearTree, hclrd, hdel, lockStorage_of_works _ hlks.1 hlks.2,
          Mss.Locked]
        exact ⟨rfl, rfl⟩
      · have hprev : t.previous = none := (hbkp hperm hback).symm.trans hfile
        simp [orLocked, clearTree, hclrd, hdel, finish_of_works _ hlks hwrtn,
          Mss.Locked, hprev]
    | some backup =>
      rw [hfile] at hroll
      obtain ⟨hcopd, htgt⟩ | ⟨hcopd, hclrd, himpo, hread, hvers, hwrtn,
        hback⟩ := hroll
      · simp [orLocked, restoreFile, hcopd, htgt, lockStorage_of_works _ hlks.1 hlks.2,
          Mss.Locked]
        exact ⟨rfl, rfl⟩
      · have hprev : t.previous = some backup := (hbkp hperm hback).symm.trans hfile
        simp [orLocked, restoreFile, hcopd, Copy.output, Copy.target, clearTree, hclrd,
          importTree, himpo, getVersion, hread, hvers, finish_of_works _ hlks hwrtn,
          Mss.Locked, hprev]
  · have hnot := eq_false_iff.2 hperm
    have hsame : (rollback env t.mss).1 = t.mss := (startIn_of_not_permitted _ hnot).1
    have hres : (rollback env t.mss).2 ≠ .ok := (startIn_of_not_permitted _ hnot).2
    rw [hsame]
    exact ⟨hlkd, .inl ⟨hres, Mss.Same.refl _, rfl, rfl⟩⟩

/-- An operation that deletes the backup, and sets a state of its own with its success. -/
theorem startIn_finish_spec (env : Env) (s : Mss) (states : List UpdateState)
    (state : UpdateState) (change : Mss → Mss)
    (hcamp : ∀ u, (change u).campaign = u.campaign)
    (hbkp : ∀ u, (change u).backupFile = if env.backupDeleted then none else u.backupFile) :
    ((startIn env s states fun u => finish env (change u) state).1.campaign = s.campaign ∨
        (startIn env s states fun u => finish env (change u) state).1.campaign = some state) ∧
      (startIn env s states fun u => finish env (change u) state).1.backupFile =
        if env.discards s states then none else s.backupFile := by
  by_cases hperm : permitted env s states = true
  swap
  · rw [(startIn_of_not_permitted _ (eq_false_iff.2 hperm)).1]
    simp [Env.discards, hperm]
  rw [startIn_of_permitted hperm]
  by_cases hcfg : env.unlockCfg = true
  swap
  · rw [unlockStorage_of_fails s hcfg]
    simp [andThen, Env.discards, hcfg]
  by_cases hrfs : env.unlockRfs = true
  swap
  · simp [unlockStorage, hcfg, hrfs, andThen, Env.discards]
  rw [unlockStorage_of_works s hcfg hrfs, andThen, if_pos rfl]
  have hdels : env.discards s states = env.backupDeleted := by
    simp [Env.discards, hperm, hcfg, hrfs]
  rw [hdels, ← hbkp { s with cfgLocked := false, rfsLocked := false }]
  obtain ⟨hst, hfile⟩ := campaign_finish env
    (change { s with cfgLocked := false, rfsLocked := false }) state
  rw [hcamp] at hst
  exact ⟨hst, hfile⟩

end Begun

/-- An environment in which nothing fails and no files are found. -/
def working : Env where
  stateRead := true
  stateWritten := true
  unlockCfg := true
  unlockRfs := true
  lockCfg := true
  lockRfs := true
  listing := some []
  file _ := none
  authentic _ := true
  merge _ c := (some c, true)
  copied := .done
  backedUp := .done
  hashed := true
  secured := true
  treeCleared := true
  imported := true
  versionRead := true
  updateDeleted := true
  backupDeleted := true
  configDeleted := true

theorem working_works : working.Works := by constructor <;> rfl

theorem campaign_cancel_working {s : Mss}
    (h : permitted working s [.updateCompleted, .updateFailed] = true) :
    (cancel working s).1.campaign = some .cancelCompleted := by
  rw [cancel, startIn_of_permitted h, unlockStorage_of_works s rfl rfl, andThen, if_pos rfl]
  rw [finish_of_works _ ⟨rfl, rfl⟩ rfl]

theorem campaign_commit_working {s : Mss}
    (h : permitted working s [.activateCompleted, .rollbackCompleted] = true) :
    (commit working s).1.campaign = some .commitCompleted := by
  rw [commit, startIn_of_permitted h, unlockStorage_of_works s rfl rfl, andThen, if_pos rfl]
  rw [finish_of_works _ ⟨rfl, rfl⟩ rfl]

variable {t : Campaign}

/-- From a tracked state a cancellation or a commit ends the campaign. -/
theorem returns_of_tracked (h : t.mss.Tracked) :
    ∃ actions : List Action, (∀ a ∈ actions, a.env.Works) ∧
      ∃ u, exec (step setup) t actions = some u ∧ acceptsUpdate u.mss = true := by
  by_cases hacc : acceptsUpdate t.mss = true
  · exact ⟨[], by simp, t, rfl, hacc⟩
  by_cases hcanc : permitted working t.mss [.updateCompleted, .updateFailed] = true
  · refine ⟨[.cancel working], ?_, _, rfl, ?_⟩
    · intro a ha
      rw [List.mem_singleton.1 ha]
      exact working_works
    · simp [acceptsUpdate, Campaign.cancel, Campaign.goOn, campaign_cancel_working hcanc]
  have hcomm : permitted working t.mss [.activateCompleted, .rollbackCompleted] = true := by
    cases hst : t.mss.campaign with
    | none => simp [acceptsUpdate, hst] at hacc
    | some state =>
      have hin := h state hst
      cases state <;> simp_all [permitted, acceptsUpdate, working]
  refine ⟨[.commit working], ?_, _, rfl, ?_⟩
  · intro a ha
    rw [List.mem_singleton.1 ha]
    exact working_works
  · simp [acceptsUpdate, Campaign.commit, Campaign.goOn, campaign_commit_working hcomm]

structure Inv (t : Campaign) : Prop where
  file : t.mss.configFile = t.active
  tree : t.mss.tree = t.active
  locked : t.mss.Locked
  tracked : t.mss.Tracked
  backup : t.mss.campaign = some .updateCompleted → t.backedUp = true →
    t.mss.backupFile = t.active
  restores : t.mss.campaign = some .activateCompleted → t.backedUp = true →
    t.mss.backupFile = t.previous
  failed : t.failed = false

theorem Start.inv (h : Start t) : Inv t where
  file := h.file
  tree := h.tree
  locked := h.locked
  tracked := by
    intro state hst
    rw [h.campaign] at hst
    cases hst
  backup hst := by
    rw [h.campaign] at hst
    cases hst
  restores hst := by
    rw [h.campaign] at hst
    cases hst
  failed := h.failed

theorem Inv.consistent (h : Inv t) : Consistent setup t where
  file := h.file
  tree := h.tree
  locked := h.locked
  undone hfail := by
    rw [h.failed] at hfail
    cases hfail
  returns := returns_of_tracked setup h.tracked

namespace Inv

variable {setup} {t : Campaign} {env : Env}
variable (h : Inv t)
include h

/-- What is left to show of an operation that leaves the active configuration: its backup. -/
theorem goOn {r : Mss × Result} {backedUp : Bool} (hkept : t.mss.Kept r.1) (hlkd : r.1.Locked)
    (hbkp : r.1.campaign = some .updateCompleted → backedUp = true → r.1.backupFile = t.active)
    (hrsts : r.1.campaign = some .activateCompleted → backedUp = true →
      r.1.backupFile = t.previous) : Inv { t.goOn r with backedUp := backedUp } where
  file := hkept.file.trans h.file
  tree := hkept.tree.trans h.tree
  locked := hlkd
  tracked := hkept.tracked h.tracked
  backup := hbkp
  restores := hrsts
  failed := by simp [Campaign.goOn, h.failed]

theorem update {version : String} (hcare : Careful setup t (.update env version)) :
    Inv (t.update setup env version) := by
  have hkept := kept_update (s := t.mss) setup env version
  by_cases hbegu : env.stateRead = true ∧ acceptsUpdate t.mss = true
  · have hbac := backs_update setup env version hbegu.2 hbegu.1
    rw [Campaign.update, if_pos hbegu]
    apply h.goOn hkept (locked_update setup env version h.locked hcare)
    · intro hst hmade
      obtain ⟨hnot, -⟩ | ⟨-, hbkp⟩ := hbac
      · exact absurd hst hnot
      · rw [hbkp (of_decide_eq_true hmade), hkept.file, h.file]
    · intro hst
      obtain ⟨-, hnot⟩ | ⟨hoth, -⟩ := hbac
      · exact absurd hst hnot
      · rw [hoth] at hst
        cases hst
  · have hsame : (CfgStorage.update setup env t.mss version).1 = t.mss := by
      unfold CfgStorage.update
      split_ifs with hread hacc
      · exact absurd ⟨hread, hacc⟩ hbegu
      all_goals rfl
    rw [Campaign.update, if_neg hbegu]
    apply h.goOn hkept (locked_update setup env version h.locked hcare)
    all_goals rw [hsame]
    · exact h.backup
    · exact h.restores

theorem cancel (hcare : Careful setup t (.cancel env)) : Inv (t.cancel env) := by
  obtain ⟨hst, hbkp⟩ := startIn_finish_spec env t.mss [.updateCompleted, .updateFailed]
    .cancelCompleted (fun u => { u with
      updateFile := if env.updateDeleted then none else u.updateFile
      backupFile := if env.backupDeleted then none else u.backupFile
      configFileData := noFiles }) (fun _ => rfl) (fun _ => rfl)
  apply h.goOn (kept_cancel env) (locked_cancel env h.locked hcare)
  · intro hnow hmade
    obtain hsame | hdone := hst
    swap
    · cases hdone.symm.trans hnow
    rw [CfgStorage.cancel, hbkp]
    split_ifs at hmade ⊢ with hdisc
    · exact (of_decide_eq_true hmade).symm
    · exact h.backup (hsame.symm.trans hnow) hmade
  · intro hnow hmade
    obtain hsame | hdone := hst
    swap
    · cases hdone.symm.trans hnow
    have hbef := hsame.symm.trans hnow
    have hkps : env.discards t.mss [.updateCompleted, .updateFailed] = false := by
      simp [Env.discards, permitted, hbef]
    rw [hkps] at hmade hbkp
    exact hbkp.trans (h.restores hbef hmade)

theorem commit (hcare : Careful setup t (.commit env)) : Inv (t.commit env) := by
  obtain ⟨hst, hbkp⟩ := startIn_finish_spec env t.mss
    [.activateCompleted, .rollbackCompleted] .commitCompleted (fun u => { u with
      backupFile := if env.backupDeleted then none else u.backupFile
      updateFile := if env.updateDeleted then none else u.updateFile }) (fun _ => rfl) (fun _ => rfl)
  apply h.goOn (kept_commit env) (locked_commit env h.locked hcare)
  · intro hnow hmade
    obtain hsame | hdone := hst
    swap
    · cases hdone.symm.trans hnow
    have hbef := hsame.symm.trans hnow
    have hkps : env.discards t.mss [.activateCompleted, .rollbackCompleted] = false := by
      simp [Env.discards, permitted, hbef]
    rw [hkps] at hmade hbkp
    exact hbkp.trans (h.backup hbef hmade)
  · intro hnow hmade
    obtain hsame | hdone := hst
    swap
    · cases hdone.symm.trans hnow
    rw [CfgStorage.commit, hbkp]
    split_ifs at hmade ⊢ with hdisc
    · exact (of_decide_eq_true hmade).symm
    · exact h.restores (hsame.symm.trans hnow) hmade

theorem verifyActivation (hcare : Careful setup t (.verifyActivation env)) :
    Inv (t.goOn (verifyActivation setup env t.mss)) := by
  obtain ⟨hfile, htree, hlkd, hcamp, hbkp⟩ :=
    verifyActivation_spec setup h.locked hcare
  have hsame : t.mss.Same (CfgStorage.verifyActivation setup env t.mss).1 := by
    refine ⟨hfile, ?_⟩
    obtain htree | htree := htree
    · exact htree
    · rw [htree, h.file, h.tree]
  apply h.goOn ⟨hsame, fun ht => ht.congr hcamp⟩ hlkd
  all_goals rw [hcamp, hbkp]
  · exact h.backup
  · exact h.restores

theorem activate (hcare : Careful setup t (.activate env)) : Inv (t.activate setup env) := by
  by_cases hperm : permitted env t.mss [.updateCompleted] = true
  · have hacti := hcare hperm
    obtain ⟨u, hupd⟩ := isSome_iff_exists.1 hacti.2.2.2.2.1
    rw [Campaign.activate, activate_of_activates setup hperm hupd hacti]
    constructor
    iterate 2 exact hupd.symm
    · exact ⟨rfl, rfl⟩
    · intro state hst
      cases hst
      decide
    · intro hst
      cases hst
    · intro _ hmade
      exact h.backup (campaign_of_permitted hperm) hmade
    · rfl
  · have hnot := eq_false_iff.2 hperm
    have hmss : (CfgStorage.activate setup env t.mss).1 = t.mss :=
      (startIn_of_not_permitted _ hnot).1
    have herr : (CfgStorage.activate setup env t.mss).2 ≠ .ok :=
      (startIn_of_not_permitted _ hnot).2
    rw [Campaign.activate, if_neg herr, hmss, hnot, h.failed]
    exact ⟨h.file, h.tree, h.locked, h.tracked, h.backup, h.restores, rfl⟩

/-- Of the states in which a rollback is permitted only one is ever reached. -/
theorem activated (hperm : permitted env t.mss [.activateCompleted, .activateFailed] = true) :
    t.mss.campaign = some .activateCompleted := by
  simp only [permitted, and_eq_true, any_eq_true, decide_eq_true_eq] at hperm
  obtain ⟨-, state, hst, hin⟩ := hperm
  have htrkd := h.tracked state hst
  cases state
  all_goals first
    | exact hst
    | exact absurd hin (by decide)
    | exact absurd htrkd (by decide)

theorem rollback (hcare : Careful setup t (.rollback env)) : Inv (t.rollback env) := by
  obtain ⟨hlkd, hfls | hwork⟩ := rollback_spec h.locked
    (fun hperm => h.restores (h.activated hperm)) hcare
  · obtain ⟨herr, hsame, hcamp, hbkp⟩ := hfls
    rw [Campaign.rollback, if_neg herr]
    refine ⟨hsame.file.trans h.file, hsame.tree.trans h.tree, hlkd, h.tracked.congr hcamp,
      ?_, ?_, h.failed⟩
    all_goals dsimp only; rw [hcamp, hbkp]
    · exact h.backup
    · exact h.restores
  obtain ⟨hok, hfile, htree, hcamp⟩ := hwork
  rw [Campaign.rollback, if_pos hok]
  refine ⟨hfile, htree, hlkd, ?_, ?_, ?_, rfl⟩
  · intro state hst
    rw [hcamp] at hst
    cases hst
    decide
  all_goals intro hst; cases hcamp.symm.trans hst

theorem step {a : Action} {u : Campaign} (hcare : Careful setup t a)
    (hstep : step setup t a = some u) : Inv u := by
  cases a with
  | update env version =>
    cases hstep
    exact h.update hcare
  | activate env =>
    cases hstep
    exact h.activate hcare
  | verifyActivation env =>
    cases hstep
    exact h.verifyActivation hcare
  | cancel env =>
    cases hstep
    exact h.cancel hcare
  | rollback env =>
    cases hstep
    exact h.rollback hcare
  | commit env =>
    cases hstep
    exact h.commit hcare

end Inv

/-- In every run of careful calls the campaign stays consistent. -/
theorem consistent_run {t u : Campaign} {actions : List Action} (hstart : Start t)
    (hcare : Meets (step setup) (Careful setup) t actions)
    (hrun : exec (step setup) t actions = some u) : Consistent setup u := by
  have hinv : Inv u :=
    exec_invariant (fun _ _ _ hs ha hstep => hs.step ha hstep) hstart.inv hcare hrun
  exact hinv.consistent setup

section Failed

variable {setup} {env : Env} {s : Mss}

theorem campaign_orLocked_error {r : Mss × Result} {next : Mss → Mss × Result}
    {state : Option UpdateState} (h : r.1.campaign = state)
    (hnext : ∀ t, t.campaign = state → (next t).2 ≠ .ok → (next t).1.campaign = state)
    (herr : (orLocked env r next).2 ≠ .ok) : (orLocked env r next).1.campaign = state := by
  unfold orLocked at herr ⊢
  split_ifs at herr ⊢
  · exact hnext _ h herr
  · rw [campaign_lockStorage, h]

theorem campaign_finish_error (herr : (finish env s state).2 ≠ .ok) :
    (finish env s state).1.campaign = s.campaign := by
  unfold finish andThen setUpdateCampaignState at herr ⊢
  split_ifs at herr ⊢
  · exact absurd rfl herr
  all_goals exact campaign_lockStorage env s

theorem campaign_activate_error (hperm : permitted env s [.updateCompleted] = true)
    (herr : (activate setup env s).2 ≠ .ok) : (activate setup env s).1.campaign = s.campaign := by
  rw [activate, startIn_of_permitted hperm, andThen] at herr ⊢
  split_ifs at herr ⊢
  swap
  · exact campaign_unlockStorage env s
  apply campaign_orLocked_error _ _ herr
  · unfold syncFile
    split <;> exact campaign_unlockStorage env s
  intro t ht
  apply campaign_orLocked_error
  · unfold setActivatedConfigHash
    split
    · exact ht
    · split_ifs <;> exact ht
  intro t ht
  apply campaign_orLocked_error
  · unfold clearTree
    split_ifs <;> exact ht
  intro t ht
  apply campaign_orLocked_error
  · unfold importTree
    split
    · exact ht
    · split_ifs <;> exact ht
  · intro t ht herr
    exact (campaign_finish_error herr).trans ht

/-- No state is set that a rollback is permitted in, so a failed activation is not undone. -/
theorem rollback_refused (hpermitted : permitted env s [.updateCompleted] = true)
    (herror : (activate setup env s).2 ≠ .ok) (env' : Env) :
    (rollback env' (activate setup env s).1).1 = (activate setup env s).1 ∧
      (rollback env' (activate setup env s).1).2 ≠ .ok := by
  have hstate : (activate setup env s).1.campaign = some .updateCompleted := by
    rw [campaign_activate_error hpermitted herror]
    exact campaign_of_permitted hpermitted
  exact startIn_of_not_permitted _ (by simp [permitted, hstate])

end Failed

section Fixed

def configOf (major : Nat) : Config where
  text := major
  readable := true
  deep := false
  majorVersion := some major
  minorVersion := some 0
  patchVersion := some 0

def firstActive : Campaign where
  mss :=
    { campaign := none
      cfgLocked := true
      rfsLocked := true
      configFileData := noFiles
      configFile := some (configOf 1)
      backupFile := none
      updateFile := none
      tree := some (configOf 1)
      activatedHash := none }
  active := some (configOf 1)
  previous := none
  backedUp := false
  failed := false

theorem firstActive_start : Start firstActive := ⟨rfl, rfl, rfl, ⟨rfl, rfl⟩, rfl⟩

/-- The file of the second version lies at the update path. -/
def secondFound : Env :=
  { working with listing := some ["config.json"], file := fun _ => some (configOf 2) }

def plainSetup : Setup where
  isQcmFormat := true
  plugin := true
  sha256 := Config.text

instance (env : Env) (file : Option Config) (backedUp : Bool) :
    ∀ backup, Decidable (env.RollsBackFrom file backedUp backup)
  | some _ => inferInstanceAs (Decidable (_ ∨ _))
  | none => inferInstanceAs (Decidable (_ ∨ _))

instance (env : Env) (t : Campaign) : Decidable (env.RollsBack t) :=
  inferInstanceAs (Decidable (env.RollsBackFrom _ _ _))

instance (t : Campaign) (a : Action) :
    Decidable (Careful plainSetup t a) := by
  unfold Careful
  split <;> infer_instance

/-- The second version is activated and rolled back. -/
def rolledBack : List Action :=
  [.update secondFound "2.0.0", .activate working, .verifyActivation working, .rollback working,
    .commit working]

theorem consistent_rolledBack :
    ∃ u, exec (step plainSetup) firstActive rolledBack = some u ∧ Consistent plainSetup u ∧
      u.active = some (configOf 1) := by
  have hcare : Meets (step plainSetup) (Careful plainSetup) firstActive rolledBack := by
    decide +kernel
  exact ⟨_, rfl, consistent_run plainSetup firstActive_start hcare rfl, rfl⟩

/-- An update is completed, and its file is gone. -/
def noUpdateFile : Mss := { firstActive.mss with campaign := some .updateCompleted }

theorem rollback_refused_noUpdateFile :
    (rollback working (activate plainSetup working noUpdateFile).1).2 ≠ .ok :=
  (rollback_refused (by decide) (by decide) working).2

/-- The tree cannot be imported once the active file is replaced and the tree is cleared. -/
def failedImport : List Action :=
  [.update secondFound "2.0.0", .activate { working with imported := false }]

/-- The second version is in the file and none in the tree, and no rollback is permitted. -/
theorem consistent_failedImport :
    ∃ u, exec (step plainSetup) firstActive failedImport = some u ∧
      u.active = some (configOf 1) ∧ u.mss.configFile = some (configOf 2) ∧ u.mss.tree = none ∧
      (rollback working u.mss).2 = .notPermitted ∧ ¬ Consistent plainSetup u := by
  refine ⟨_, rfl, by decide +kernel, by decide +kernel, by decide +kernel, by decide +kernel, ?_⟩
  intro h
  have htree := h.tree
  revert htree
  decide +kernel

end Fixed

end TelAF.CfgStorage
