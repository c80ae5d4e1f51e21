import TelAF.RfsBackup

/-!
# Transfers that stop early

`sendfile` may transfer less than the whole file, and only a failure of the call is looked
at. A restored file that is short gets the hash of what there is, passes the check that
follows, and takes the place of its backup. A copy that cannot read its source ends with
`taf_rfs_Close`, which makes the copied part the file that a later open returns; one that
cannot write leaves a file that does not match its attribute.
-/

namespace TelAF.RfsTransfers

open RfsStore RfsBackup TransitionRuns Function Option Store List

section
variable (sent : Nat → Nat) (p : Platform) (s : Store)

def transferred (content : Content) : Content := content.take (sent content.length)

def replaceFileWithBackup (name : Path) : Option Store :=
  match backup p s name with
  | none => none
  | some copy =>
    if validateFileMD5WithExtendedAttr p (some copy) then
      let content := transferred sent copy.content
      some (s.overwrite (p.realPath name) ⟨content, some (p.md5 content)⟩)
    else none

def backupFileToStorage (name : Path) : Store × Bool :=
  if countFiles s ≥ p.maxFileCount then (s.observe [.error .noMemory name], false)
  else
    match s.file (p.realPath name) with
    | none => (s.observe [.error .backup name], false)
    | some f =>
      let content := transferred sent f.content
      let attr := match backup p s name with
        | some old => old.md5Attr
        | none => none
      match f.md5Attr with
      | none => ({ s with backups := s.backups.insert (p.sha1 name) ⟨content, attr⟩ }, false)
      | some hash =>
        ({ s with backups := s.backups.insert (p.sha1 name) ⟨content, some hash⟩ }, true)

def refreshBackupIfNeeded (name : Path) (primaryMd5 : String) : Store × Bool :=
  match backup p s name with
  | none => backupFileToStorage sent p s name
  | some copy =>
    match copy.md5Attr with
    | none => backupFileToStorage sent p s name
    | some backupMd5 =>
      if validateFileMD5WithExtendedAttr p (some copy) = false then backupFileToStorage sent p s name
      else if primaryMd5 ≠ backupMd5 then backupFileToStorage sent p s name
      else (s, true)

def refreshOnOpen (name : Path) : Store :=
  match s.file (p.realPath name) with
  | some ⟨_, some primaryMd5⟩ => (refreshBackupIfNeeded sent p s name primaryMd5).1
  | _ => s

def openRefreshed (name : Path) (flags : OpenFlags) (events : List Event) : Store × Option Nat :=
  let refreshed := refreshOnOpen sent p s name
  match refreshed.openFile (p.realPath name) flags with
  | none => (refreshed, none)
  | some (opened, fd) => (opened.observe events, some fd)

/-- The calls of `sendfile` that restore the file and that refresh its backup. -/
def tafRfsOpen (restores refreshes : Nat → Nat) (name : Path) (flags : OpenFlags) :
    Store × Option Nat :=
  if needRestore p s name flags then
    match replaceFileWithBackup restores p s name with
    | none => (s.observe [.error .restore name], none)
    | some restored =>
      match restored.file (p.realPath name) with
      | none => (restored.observe [.error .restore name], none)
      | some f =>
        if validateFileMD5WithExtendedAttr p (some f) = false then
          (restored.observe [.error .restore name], none)
        else openRefreshed refreshes p restored name flags [.restored (p.realPath name) f.content]
  else openRefreshed refreshes p s name flags []

end

variable {sent restores refreshes : Nat → Nat} {p : Platform} {s t u : Store} {name path : Path}
  {flags : OpenFlags} {copy f : File} {fd : Nat} {events : List Event}

theorem transferred_id (content : Content) : transferred id content = content := take_length

theorem transferred_eq_iff (content : Content) :
    transferred sent content = content ↔ content.length ≤ sent content.length := by
  constructor
  · intro h
    have hlen := congrArg length h
    rw [transferred, length_take] at hlen
    omega
  · exact take_of_length_le

theorem refreshBackup_id (hash : String) :
    refreshBackupIfNeeded id p s name hash = RfsStore.refreshBackupIfNeeded p s name hash := by
  have hbkp : backupFileToStorage id p s name = RfsStore.backupFileToStorage p s name := by
    simp only [backupFileToStorage, transferred_id]
    rfl
  simp only [refreshBackupIfNeeded, hbkp]
  rfl

theorem refreshOnOpen_id : refreshOnOpen id p s name = RfsStore.refreshOnOpen p s name := by
  simp only [refreshOnOpen, refreshBackup_id]
  rfl

/-- Where every file is transferred as a whole, this is how files are opened. -/
theorem tafRfsOpen_id : tafRfsOpen p s id id name flags = RfsStore.tafRfsOpen p s name flags := by
  have hrefr (s : Store) (events : List Event) :
      openRefreshed id p s name flags events = RfsStore.openRefreshed p s name flags events := by
    simp only [openRefreshed, refreshOnOpen_id]
    rfl
  simp only [tafRfsOpen, replaceFileWithBackup, transferred_id, hrefr]
  rfl

theorem overwrite_file (s : Store) (path : Path) (f : File) :
    (s.overwrite path f).file path = some f := by
  unfold overwrite file
  cases hold : s.files path with
  | none => simp [create]
  | some inode => simp [setFile, hold]

/-- An open that restores the file goes on with what was transferred of its backup. -/
theorem tafRfsOpen_restored (hneed : needRestore p s name flags = true)
    (hopen : tafRfsOpen p s restores refreshes name flags = (t, some fd)) :
    ∃ copy, backup p s name = some copy ∧
      validateFileMD5WithExtendedAttr p (some copy) = true ∧
      openRefreshed refreshes p
        (s.overwrite (p.realPath name) ⟨transferred restores copy.content,
          some (p.md5 (transferred restores copy.content))⟩) name flags
        [.restored (p.realPath name) (transferred restores copy.content)] = (t, some fd) := by
  unfold tafRfsOpen replaceFileWithBackup at hopen
  rw [if_pos hneed] at hopen
  rcases hcopy : backup p s name with _ | copy
  · rw [hcopy] at hopen
    exact absurd (congrArg Prod.snd hopen) nofun
  rw [hcopy] at hopen
  dsimp only at hopen
  by_cases hval : validateFileMD5WithExtendedAttr p (some copy) = true
  · rw [if_pos hval] at hopen
    dsimp only at hopen
    rw [overwrite_file] at hopen
    dsimp only at hopen
    rw [if_neg (by rw [validate_some.2 rfl]; exact nofun)] at hopen
    exact ⟨copy, rfl, hval, hopen⟩
  · rw [if_neg hval] at hopen
    exact absurd (congrArg Prod.snd hopen) nofun

theorem openRefreshed_some (hopen : openRefreshed sent p s name flags events = (t, some fd)) :
    ∃ opened, (refreshOnOpen sent p s name).openFile (p.realPath name) flags = some (opened, fd) ∧
      t = opened.observe events := by
  unfold openRefreshed at hopen
  dsimp only at hopen
  split at hopen
  · exact absurd (congrArg Prod.snd hopen) nofun
  rename_i opened fd' hfnd
  cases hopen
  exact ⟨opened, hfnd, rfl⟩

/-- The end of an open leaves the file, unless it is truncated. -/
theorem openFile_some (hfile : s.file path = some f) (hopen : s.openFile path flags = some (t, fd)) :
    t.backups = s.backups ∧ (flags.trunc = false → t.file path = some f) := by
  obtain ⟨inode, hinod, hf⟩ := map_eq_some_iff.1 hfile
  unfold openFile at hopen
  rw [hinod] at hopen
  dsimp only at hopen
  split_ifs at hopen with _ htrun
  · cases hopen
    exact ⟨rfl, fun h => absurd h (by rw [htrun]; exact nofun)⟩
  · cases hopen
    exact ⟨rfl, fun _ => hfile⟩

/-- The file was restored with the content of its backup, and the backup is as it was. -/
structure Faithful (p : Platform) (t : Store) (name : Path) (flags : OpenFlags) (copy : File) :
    Prop where
  restored : t.log.head? = some (.restored (p.realPath name) copy.content)
  primary : flags.trunc = false → (t.file (p.realPath name)).map File.content = some copy.content
  kept : backup p t name = some copy

/-- A restored file has the content of its backup if and only if all of it was transferred. -/
theorem restore_faithful_iff (p : Platform) (s t : Store) (restores refreshes : Nat → Nat)
    (name : Path) (flags : OpenFlags) (fd : Nat) (copy : File)
    (hneed : needRestore p s name flags = true) (hcopy : backup p s name = some copy)
    (hopen : tafRfsOpen p s restores refreshes name flags = (t, some fd)) :
    Faithful p t name flags copy ↔ copy.content.length ≤ restores copy.content.length := by
  obtain ⟨copy', hcopy', hvalid, hrest⟩ := tafRfsOpen_restored hneed hopen
  obtain rfl : copy = copy' := Option.some.inj (hcopy.symm.trans hcopy')
  obtain ⟨opened, hfound, rfl⟩ := openRefreshed_some hrest
  have hwhole : transferred restores copy.content = copy.content ↔ _ :=
    transferred_eq_iff copy.content
  constructor
  · intro h
    exact hwhole.1 (Event.restored.inj (Option.some.inj h.restored)).2
  intro hle
  rw [hwhole.2 hle] at hfound ⊢
  let restored := s.overwrite (p.realPath name) ⟨copy.content, some (p.md5 copy.content)⟩
  have hfile : restored.file (p.realPath name) = some ⟨copy.content, some (p.md5 copy.content)⟩ :=
    overwrite_file s _ _
  have hbackups : restored.backups = s.backups := by
    unfold restored Store.overwrite
    split <;> rfl
  have hbackup : backup p restored name = some copy := by
    rw [backup, hbackups]
    exact hcopy
  have hrefreshed : refreshOnOpen refreshes p restored name = restored := by
    unfold refreshOnOpen refreshBackupIfNeeded
    rw [hfile]
    rw [hbackup]
    dsimp only
    rw [validate_some.1 hvalid, hvalid]
    simp
  rw [hrefreshed] at hfound
  obtain ⟨hkept, hprimary⟩ := openFile_some hfile hfound
  constructor
  · rfl
  · intro htrunc
    exact congrArg (Option.map File.content) (hprimary htrunc)
  · exact (congrArg (fun l => l.lookup (p.sha1 name)) hkept).trans hbackup

/-- What is left of a file that was closed. -/
def savedFile : File := ⟨[0x41], some ((samplePlatform 2).md5 [0x41])⟩

/-- A backup, and no file. -/
def lostStore : Store :=
  { emptyStore with backups := AList.insert ((samplePlatform 2).sha1 "/data/a") savedFile ∅ }

theorem restore_faithful_whole :
    ∃ t, tafRfsOpen (samplePlatform 2) lostStore id id "/data/a" reading = (t, some 0) ∧
      (Faithful (samplePlatform 2) t "/data/a" reading savedFile ↔ 1 ≤ 1) :=
  ⟨_, rfl, restore_faithful_iff (samplePlatform 2) lostStore _ id id "/data/a" reading 0 savedFile
    (by decide) (by rfl) rfl⟩

/-- Nothing is transferred, and the open succeeds and empties the backup too. -/
theorem restore_not_faithful :
    ∃ t fd, tafRfsOpen (samplePlatform 2) lostStore (fun _ => 0) id "/data/a" reading = (t, some fd) ∧
      ¬ Faithful (samplePlatform 2) t "/data/a" reading savedFile := by
  refine ⟨_, _, rfl, fun h => ?_⟩
  exact absurd h.restored (by decide)

theorem refreshBackup_files (hash : String) :
    (refreshBackupIfNeeded sent p s name hash).1.files = s.files ∧
      (refreshBackupIfNeeded sent p s name hash).1.inodes = s.inodes := by
  have hbkp : (backupFileToStorage sent p s name).1.files = s.files ∧
      (backupFileToStorage sent p s name).1.inodes = s.inodes := by
    unfold backupFileToStorage
    split
    · exact ⟨rfl, rfl⟩
    split
    · exact ⟨rfl, rfl⟩
    · dsimp only
      split <;> exact ⟨rfl, rfl⟩
  unfold refreshBackupIfNeeded
  split
  · exact hbkp
  split
  · exact hbkp
  split_ifs
  · exact hbkp
  · exact hbkp
  · exact ⟨rfl, rfl⟩

theorem refreshOnOpen_file : (refreshOnOpen sent p s name).file path = s.file path := by
  unfold refreshOnOpen
  split
  · rw [file, file, (refreshBackup_files _).1, (refreshBackup_files _).2]
  · rfl

/-- An open that truncates nothing returns a file that is valid as it is. -/
theorem open_valid (hfile : s.file (p.realPath name) = some f)
    (hval : validateFileMD5WithExtendedAttr p (some f) = true) (htrun : flags.trunc = false)
    (hopen : tafRfsOpen p s restores refreshes name flags = (t, some fd)) :
    t.file (p.realPath name) = some f := by
  have hneed : needRestore p s name flags = false := by
    unfold needRestore
    rw [hfile]
    exact congrArg Bool.not hval
  rw [tafRfsOpen, hneed] at hopen
  obtain ⟨opened, hfnd, rfl⟩ := openRefreshed_some hopen
  exact (openFile_some (refreshOnOpen_file.trans hfile) hfnd).2 htrun

variable {paths : List Path} {contents : List Content} {closed : Option Content} {inode : Nat}

/-- A file that is there is opened with the content that was closed last. -/
theorem open_yields (h : Kept p paths contents true none s) (hfree : CollisionFree p paths contents)
    (hname : p.realPath name = name ∧ name ∈ paths) (hfile : s.files name = some inode)
    (htrun : flags.trunc = false) (hopen : RfsStore.tafRfsOpen p s name flags = (t, some fd)) :
    (t.file name).map File.content = lastClosed true s.log name := by
  rw [← tafRfsOpen_id] at hopen
  cases hneed : needRestore p s name flags with
  | true =>
    obtain ⟨copy, hcopy, hval, hrest⟩ := tafRfsOpen_restored hneed hopen
    obtain ⟨opened, hfnd, rfl⟩ := openRefreshed_some hrest
    have hopn := (openFile_some (refreshOnOpen_file.trans (overwrite_file s _ _)) hfnd).2 htrun
    rw [hname.1] at hopn
    rw [h.copies name hname.2 (by simp) copy hcopy hval]
    change (opened.file name).map File.content = _
    rw [hopn, transferred_id]
    rfl
  | false =>
    have hf : s.file (p.realPath name) = some (s.inodes inode).file := by
      rw [hname.1, file, hfile]
      rfl
    have hval : validateFileMD5WithExtendedAttr p (some (s.inodes inode).file) = true := by
      unfold needRestore at hneed
      rw [hf] at hneed
      simpa using hneed
    have hopn := open_valid hf hval htrun hopen
    rw [hname.1] at hopn
    rw [hopn, h.valid hfree hfile hval]
    rfl

structure Copying (s : Store) (dest : Path) (fd : Nat) (closed : Option Content) : Prop where
  descriptor : ∃ d ∈ s.descriptors fd, d.flags.writes = true ∧ s.files dest = some d.inode
  log : lastClosed true s.log dest = closed

theorem Copying.step (h : Copying s dest fd closed) (hstep : step p s (.copyStep fd none) = some t) :
    Copying t dest fd closed := by
  obtain ⟨d, hd, hwrts, hfile⟩ := h.descriptor
  obtain ⟨-, ht⟩ := ite_none_right_eq_some.1 hstep
  obtain rfl := some.inj ht
  unfold tafRfsCopyStep
  rw [hd]
  dsimp only
  split
  · exact h
  unfold write setDescriptor
  dsimp only
  rw [update_self]
  dsimp only
  rw [if_neg (by rw [hwrts]; exact nofun)]
  exact ⟨⟨_, update_self .., hwrts, hfile⟩, h.log⟩

theorem Copying.run (h : Copying s dest fd closed) {passes : Nat}
    (hrun : exec (RfsStore.step p) s (replicate passes (.copyStep fd none)) = some t) :
    Copying t dest fd closed := by
  induction passes generalizing s with
  | zero =>
    cases hrun
    exact h
  | succ passes ih =>
    obtain ⟨next, hstep, hrest⟩ := bind_eq_some_iff.1 hrun
    exact ih (h.step hstep) hrest

/-- A short write leaves the directory and the log. -/
theorem short_write (hstep : step p s (.copyStep fd (some inode)) = some t) :
    t.files = s.files ∧ t.log = s.log := by
  obtain ⟨-, ht⟩ := ite_none_right_eq_some.1 hstep
  obtain rfl := some.inj ht
  unfold tafRfsCopyStep write
  split
  · exact ⟨rfl, rfl⟩
  split
  · exact ⟨rfl, rfl⟩
  dsimp only
  split
  · exact ⟨rfl, rfl⟩
  · split_ifs <;> exact ⟨rfl, rfl⟩

theorem openFile_descriptor (hopen : s.openFile path flags = some (t, fd)) :
    ∃ d ∈ t.descriptors fd, d.flags = flags ∧ t.files path = some d.inode ∧
      t.log = s.log := by
  unfold openFile at hopen
  split at hopen
  · rename_i inode hinod
    dsimp only at hopen
    split_ifs at hopen <;> cases hopen <;>
      exact ⟨_, update_self .., rfl, hinod, rfl⟩
  · split_ifs at hopen
    cases hopen
    exact ⟨_, update_self .., rfl, update_self .., rfl⟩

theorem open_copying (hname : p.realPath name = name)
    (hopen : RfsStore.tafRfsOpen p s name copyFlags = (t, some fd)) :
    Copying t name fd (lastClosed true s.log name) := by
  have hend (s' : Store) (hlog : s'.log = s.log) (events : List Event)
      (hevs : events = [] ∨ ∃ content, events = [.restored name content])
      (hrest : openRefreshed id p s' name copyFlags events = (t, some fd)) :
      Copying t name fd (lastClosed true s.log name) := by
    obtain ⟨opened, hfnd, rfl⟩ := openRefreshed_some hrest
    rw [hname] at hfnd
    obtain ⟨d, hd, hflag, hfile, hsame⟩ := openFile_descriptor hfnd
    refine ⟨⟨d, hd, by rw [hflag]; rfl, hfile⟩, ?_⟩
    have hclsd : lastClosed true opened.log name = lastClosed true s.log name := by
      rw [hsame, refreshOnOpen_id, refreshOnOpen_closed, hlog]
    rcases hevs with rfl | ⟨content, rfl⟩ <;> exact hclsd
  rw [← tafRfsOpen_id] at hopen
  cases hneed : needRestore p s name copyFlags with
  | true =>
    obtain ⟨copy, -, -, hrest⟩ := tafRfsOpen_restored hneed hopen
    refine hend _ ?_ _ (.inr ⟨_, by rw [hname]⟩) hrest
    unfold overwrite
    split <;> rfl
  | false =>
    rw [tafRfsOpen, hneed] at hopen
    exact hend s rfl [] (.inl rfl) hopen

/-- What ends a copy with an error. -/
inductive CopyFailure where
  | read
  | write (length : Nat)

def CopyFailure.action (fd : Nat) : CopyFailure → Action
  | read => .copyEnd fd true
  | write length => .copyStep fd (some length)

/-- The copy up to the failure. -/
def copying (source dest : Path) (fd passes : Nat) : List Action :=
  .copy source dest :: List.replicate passes (.copyStep fd none)

/-- The conditions of careful runs. -/
def Careful (p : Platform) (paths : List Path) (contents : List Content) (s : Store) (a : Action) :
    Prop := Canonical p paths s a ∧ Detectable p contents s a ∧ HasRoom p s a
deriving Decidable

/-- Whoever opens the file finds what was closed last, if the open succeeds. -/
def Recoverable (p : Platform) (t : Store) (dest : Path) (closed : Option Content) : Prop :=
  ∀ flags u fd, flags.trunc = false → RfsStore.tafRfsOpen p t dest flags = (u, some fd) →
    (u.file dest).map File.content = closed

theorem kept_careful (hfree : CollisionFree p paths contents)
    (h : Kept p paths contents true none s) {as : List Action}
    (hok : Meets (step p) (Careful p paths contents) s as) (hrun : exec (step p) s as = some t) :
    Kept p paths contents true none t :=
  exec_invariant (fun _ _ _ (h : Kept p paths contents true none _) hok hstep =>
    kept_step h hfree hok.1 hok.2.2 hok.2.1 (fun hfal => nomatch hfal) hstep) h hok hrun

/-- A read failure closes the file with what was copied. -/
theorem recoverable_read (hname : p.realPath path = path) (h : Copying s path fd closed)
    (hlink : ∀ inode, s.files path = some inode → (s.inodes inode).path = some path)
    (hstep : step p s (.copyEnd fd true) = some t) :
    Recoverable p t path closed ↔ (s.file path).map File.content = closed := by
  obtain ⟨d, hd, hwrts, hfile⟩ := h.descriptor
  obtain ⟨⟨hcops, -⟩, ht⟩ := ite_none_right_eq_some.1 hstep
  let content := (s.inodes d.inode).file.content
  have hclsd : t = (tafRfsClose p s fd).1 := by
    rw [← some.inj ht, tafRfsCopyEnd, hd]
    dsimp only
    cases hsrc : d.source with
    | none => simp [copies, mem_def.1 hd, hsrc] at hcops
    | some source => rfl
  have hrecd : t.file (p.realPath path) = some ⟨content, some (p.md5 content)⟩ := by
    rw [hclsd, tafRfsClose, hd, hname]
    dsimp only
    rw [hlink _ hfile, hwrts]
    dsimp only
    rw [if_pos rfl, ← refreshBackup_id]
    rw [file, (refreshBackup_files _).1, (refreshBackup_files _).2]
    change (s.files path).map _ = _
    rw [hfile]
    exact congrArg some (setFile_self ..)
  have hfnd : (s.file path).map File.content = some content := by
    rw [file, hfile]
    rfl
  rw [hfnd]
  constructor
  · intro hreco
    have hneed : needRestore p t path reading = false := by
      unfold needRestore
      rw [hrecd]
      exact congrArg Bool.not (validate_some.2 rfl)
    obtain ⟨inode, hinod, -⟩ := map_eq_some_iff.1 (refreshOnOpen_file.trans hrecd :
      (refreshOnOpen id p t path).file (p.realPath path) = _)
    have hopen : tafRfsOpen p t id id path reading =
        ((((refreshOnOpen id p t path).openDescriptor inode reading).1.observe []),
          some (refreshOnOpen id p t path).nextDescriptor) := by
      rw [tafRfsOpen, hneed, openRefreshed, openFile]
      rw [hinod]
      rfl
    have hyiel := hreco reading _ _ rfl (tafRfsOpen_id.symm.trans hopen)
    rw [← hyiel]
    have hsame := open_valid hrecd (validate_some.2 rfl) rfl hopen
    rw [hname] at hsame
    rw [hsame]
    rfl
  · rintro rfl flags u fd' htrun hopen
    have hsame := open_valid hrecd (validate_some.2 rfl) htrun (tafRfsOpen_id.trans hopen)
    rw [hname] at hsame
    rw [hsame]
    rfl

/-- After a careful run, a copy that fails leaves its destination recoverable if and only if
it was not the source that could not be read, or all that was copied was closed before. -/
theorem failing_copy_recoverable_iff (p : Platform) (paths : List Path) (contents : List Content)
    (hfree : CollisionFree p paths contents) (as : List Action) (source dest : Path)
    (fd passes : Nat) (fails : CopyFailure) (s opened u t : Store)
    (hrun : exec (step p) emptyStore as = some s)
    (hsource : (s.files (p.realPath source)).isSome = true)
    (hopen : RfsStore.tafRfsOpen p s dest copyFlags = (opened, some fd))
    (hcopy : exec (step p) s (copying source dest fd passes) = some u)
    (hfails : step p u (fails.action fd) = some t)
    (hok : Meets (step p) (Careful p paths contents) emptyStore (as ++ copying source dest fd passes))
    (hwrite : fails ≠ .read → Careful p paths contents u (fails.action fd)) :
    Recoverable p t dest (lastClosed true s.log dest) ↔
      (fails = .read → (u.file dest).map File.content = lastClosed true s.log dest) := by
  have hdest : p.realPath dest = dest ∧ dest ∈ paths := ((meets_append.1 hok).2 s hrun).1.1.2
  have hrunu : exec (step p) emptyStore (as ++ copying source dest fd passes) = some u := by
    rw [exec_append, hrun]
    exact hcopy
  have hkept := kept_careful hfree kept_empty hok hrunu
  have hcopying : Copying u dest fd (lastClosed true s.log dest) := by
    obtain ⟨first, hfirst, hpasses⟩ := Option.bind_eq_some_iff.1 hcopy
    have hopn := open_copying hdest.1 hopen
    obtain ⟨d, hd, hwrites, hfile⟩ := hopn.descriptor
    obtain ⟨inode, hinode⟩ := Option.isSome_iff_exists.1 hsource
    have hcopied : first = opened.setDescriptor fd { d with source := some ⟨inode, 0, none⟩ } := by
      rw [← Option.some.inj hfirst, tafRfsCopy, hinode]
      rw [hopen]
      dsimp only
      rw [Option.mem_def.1 hd]
    have hstart : Copying first dest fd (lastClosed true s.log dest) := by
      rw [hcopied]
      exact ⟨⟨_, Function.update_self .., hwrites, hfile⟩, hopn.log⟩
    exact hstart.run hpasses
  cases fails with
  | read =>
    rw [recoverable_read hdest.1 hcopying (fun inode => (hkept.linked dest inode).1) hfails]
    simp
  | write length =>
    refine iff_of_true ?_ nofun
    have hkept' : Kept p paths contents true none t := by
      have hcare := hwrite nofun
      exact kept_step hkept hfree hcare.1 hcare.2.2 hcare.2.1 (fun hfalse => nomatch hfalse) hfails
    obtain ⟨hfiles, hlog⟩ := short_write hfails
    obtain ⟨d, -, -, hfile⟩ := hcopying.descriptor
    intro flags v fd' htrunc hyield
    rw [← hcopying.log, ← hlog]
    exact open_yields hkept' hfree hdest ((congrFun hfiles dest).trans hfile) htrunc hyield

/-- A file is closed, and another one is there to be copied over it. -/
def closedBefore : List Action :=
  [.open "/data/a" writing, .write 0 [0x41], .close 0, .create "/data/b" [0x42]]

/-- `samplePlatform` with hashes for both names. -/
def pairPlatform : Platform := { samplePlatform 2 with sha1 := id }

/-- A copy that stops before its first write leaves the file to be restored. -/
theorem failing_copy_write :
    ∃ s u t opened, exec (step pairPlatform) emptyStore closedBefore = some s ∧
    exec (step pairPlatform) s (copying "/data/b" "/data/a" 1 0) = some u ∧
    step pairPlatform u (.copyStep 1 (some 0)) = some t ∧
    RfsStore.tafRfsOpen pairPlatform s "/data/a" copyFlags = (opened, some 1) ∧
    (Recoverable pairPlatform t "/data/a" (lastClosed true s.log "/data/a") ↔
      (CopyFailure.write 0 = .read →
        (u.file "/data/a").map File.content = lastClosed true s.log "/data/a")) := by
  refine ⟨_, _, _, _, rfl, rfl, rfl, rfl, ?_⟩
  exact failing_copy_recoverable_iff pairPlatform ["/data/a", "/data/b"] [[], [0x41], [0x42]]
    ⟨by decide, (samplePlatform_collisionFree 2).md5, by decide⟩ closedBefore "/data/b" "/data/a" 1 0
    (.write 0) _ _ _ _ rfl rfl rfl rfl rfl (by decide) (fun _ => by decide)

/-- A copy whose first read fails leaves an empty file for a valid one. -/
theorem failing_copy_read :
    ∃ s u t v fd, exec (step pairPlatform) emptyStore closedBefore = some s ∧
    exec (step pairPlatform) s (copying "/data/b" "/data/a" 1 0) = some u ∧
    step pairPlatform u (.copyEnd 1 true) = some t ∧
    RfsStore.tafRfsOpen pairPlatform t "/data/a" reading = (v, some fd) ∧
    lastClosed true s.log "/data/a" = some [0x41] ∧
      (v.file "/data/a").map File.content = some [] :=
  ⟨_, _, _, _, _, rfl, rfl, rfl, rfl, rfl, rfl⟩

end TelAF.RfsTransfers
