import TelAF.RfsStore
import TelAF.TransitionRuns

/-!
# What a restored file holds

A file is restored with the content that it had when it was last closed. Three stores have
to agree for this: the primary file, its MD5 attribute and the copy in the backup
directory. `Kept` says what ties them to the log: an attribute is the hash of the content
that was closed last, or of nothing that any file holds, and a copy that matches its own
attribute has that content.

The copy falls behind where it is not replaced, since `BackupFileToStorage` counts the file
that it is about to replace and refuses when the directory is full, and where the same file
is named in two ways, since copies are filed under names and `taf_rfs_Close` takes the
name from the kernel.
-/

namespace TelAF.RfsBackup

open RfsStore TransitionRuns Store Function Option

/-- The content of a file when `taf_rfs_Close` last succeeded for it; with `writersOnly`
when a descriptor with write permission was closed last. -/
def lastClosed (writersOnly : Bool) : List Event → Path → Option Content
  | [], _ => none
  | .closed closedPath content writable :: older, path =>
    if closedPath = path ∧ (writable = true ∨ writersOnly = false) then some content
    else lastClosed writersOnly older path
  | .renamed source dest :: older, path =>
    if path = dest then lastClosed writersOnly older source
    else if path = source then none
    else lastClosed writersOnly older path
  | .deleted gone :: older, path => if gone = path then none else lastClosed writersOnly older path
  | .restored _ _ :: older, path => lastClosed writersOnly older path
  | .error _ _ :: older, path => lastClosed writersOnly older path

/-- Every open that restored a file restored what was closed last. -/
def RestoresLastClosed (writersOnly : Bool) : List Event → Prop
  | [] => True
  | .restored path content :: older =>
    lastClosed writersOnly older path = some content ∧ RestoresLastClosed writersOnly older
  | .closed _ _ _ :: older => RestoresLastClosed writersOnly older
  | .renamed _ _ :: older => RestoresLastClosed writersOnly older
  | .deleted _ :: older => RestoresLastClosed writersOnly older
  | .error _ _ :: older => RestoresLastClosed writersOnly older

instance decidableRestoresLastClosed (writersOnly : Bool) :
    DecidablePred (RestoresLastClosed writersOnly)
  | [] => inferInstanceAs (Decidable True)
  | .restored path content :: older =>
    have := decidableRestoresLastClosed writersOnly older
    inferInstanceAs (Decidable
      (lastClosed writersOnly older path = some content ∧ RestoresLastClosed writersOnly older))
  | .closed _ _ _ :: older => decidableRestoresLastClosed writersOnly older
  | .renamed _ _ :: older => decidableRestoresLastClosed writersOnly older
  | .deleted _ :: older => decidableRestoresLastClosed writersOnly older
  | .error _ _ :: older => decidableRestoresLastClosed writersOnly older

/-- The copy that stands under a name is invalid or holds the content of the file already,
or the directory is not full. -/
def Replaceable (p : Platform) (backups : AList fun _ : String => File) (name : Path)
    (f : File) : Prop :=
  match backups.lookup (p.sha1 name) with
  | none => True
  | some copy => validateFileMD5WithExtendedAttr p (some copy) = true →
      (validateFileMD5WithExtendedAttr p (some f) = true ∧ copy.content = f.content) ∨
        backups.entries.length < p.maxFileCount

instance (p : Platform) (backups : AList fun _ : String => File) (name : Path) (f : File) :
    Decidable (Replaceable p backups name f) := by
  unfold Replaceable
  split <;> infer_instance

/-- The descriptor has write permission only if the copy of its file can be replaced. -/
def CloseFindsRoom (p : Platform) (s : Store) (fd : Nat) : Prop :=
  ∀ d ∈ s.descriptors fd, d.flags.writes = true →
    ∀ path ∈ (s.inodes d.inode).path, Replaceable p s.backups path
      ⟨(s.inodes d.inode).file.content, some (p.md5 (s.inodes d.inode).file.content)⟩
deriving Decidable

/-- A valid copy that has to be replaced finds room, although it takes none itself. -/
def HasRoom (p : Platform) (s : Store) : Action → Prop
  | .close fd => CloseFindsRoom p s fd
  | .copyEnd fd _ => CloseFindsRoom p s fd
  | .rename source dest => p.device (p.realPath source) = p.device (p.realPath dest) →
      ∀ f ∈ s.file (p.realPath source), Replaceable p (s.backups.erase (p.sha1 source)) dest f
  | _ => True

instance (p : Platform) : DecidableRel (HasRoom p) := fun _ a => by
  cases a <;> unfold HasRoom <;> infer_instance

/-- Files are named by the paths that the kernel reports, all from a list of paths. -/
def Canonical (p : Platform) (paths : List Path) (s : Store) : Action → Prop
  | .open name _ => p.realPath name = name ∧ name ∈ paths
  | .delete name => p.realPath name = name ∧ name ∈ paths
  | .copy source dest => (p.realPath source = source ∧ source ∈ paths) ∧
      p.realPath dest = dest ∧ dest ∈ paths
  | .rename source dest => (p.realPath source = source ∧ source ∈ paths) ∧
      p.realPath dest = dest ∧ dest ∈ paths
  | .copyEnd fd _ =>
    ∀ d ∈ s.descriptors fd, ∀ source ∈ d.source, ∀ name ∈ source.deletes,
      p.realPath name = name ∧ name ∈ paths
  | .create path _ => p.realPath path ∈ paths
  | _ => True

instance (p : Platform) (paths : List Path) : DecidableRel (Canonical p paths) := fun _ a => by
  cases a <;> unfold Canonical <;> infer_instance

/-- What files hold is from a list of contents; a change behind the back of the library
keeps the attribute, drops it, or makes it the hash of none of them; and a file without
attribute does not happen to match the attribute of the copy whose name it takes. -/
def Detectable (p : Platform) (contents : List Content) (s : Store) : Action → Prop
  | .write fd bytes => ∀ d ∈ s.descriptors fd, written s d bytes ∈ contents
  | .copyStep fd short => ∀ d ∈ s.descriptors fd, ∀ source ∈ d.source,
      written s d (match short with
        | none => copyChunk s source
        | some length => (copyChunk s source).take length) ∈ contents
  | .corrupt path f => f.content ∈ contents ∧
      (f.md5Attr = none ∨ (∃ old ∈ s.file (p.realPath path), f.md5Attr = old.md5Attr) ∨
        ∀ content ∈ contents, f.md5Attr ≠ some (p.md5 content))
  | .create _ content => content ∈ contents
  | .rename source dest => ∀ f ∈ s.file (p.realPath source), f.md5Attr = none →
      ∀ copy ∈ (s.backups.erase (p.sha1 source)).lookup (p.sha1 dest),
        copy.md5Attr ≠ some (p.md5 f.content)
  | _ => True

instance (p : Platform) (contents : List Content) :
    DecidableRel (Detectable p contents) := fun _ a => by
  cases a <;> unfold Detectable <;> infer_instance

/-- The descriptor has write permission unless its file matches its attribute. -/
def CloseFindsIntact (p : Platform) (s : Store) (fd : Nat) : Prop :=
  ∀ d ∈ s.descriptors fd, d.flags.writes = false →
    validateFileMD5WithExtendedAttr p (some (s.inodes d.inode).file) = true
deriving Decidable

/-- Readers close only files that match their attribute. -/
def ReadsIntact (p : Platform) (s : Store) : Action → Prop
  | .close fd => CloseFindsIntact p s fd
  | .copyEnd fd _ => CloseFindsIntact p s fd
  | _ => True

instance (p : Platform) : DecidableRel (ReadsIntact p) := fun _ a => by
  cases a <;> unfold ReadsIntact <;> infer_instance

/-- The hashes tell the paths and the contents of a run apart. -/
structure CollisionFree (p : Platform) (paths : List Path) (contents : List Content) : Prop where
  sha1 : ∀ a ∈ paths, ∀ b ∈ paths, p.sha1 a = p.sha1 b → a = b
  md5 : ∀ a ∈ contents, ∀ b ∈ contents, p.md5 a = p.md5 b → a = b
  empty : [] ∈ contents

/-- The hash of the content that was closed last, or of nothing that a file holds. -/
def Recorded (p : Platform) (contents : List Content) (closed : Option Content)
    (hash : String) : Prop :=
  (∃ content, closed = some content ∧ p.md5 content = hash) ∨
    ∀ content ∈ contents, p.md5 content ≠ hash

/-- What ties files, attributes and copies to the log. The copy of `behind` may be one that
was not replaced yet. -/
structure Kept (p : Platform) (paths : List Path) (contents : List Content) (writersOnly : Bool)
    (behind : Option Path) (s : Store) : Prop where
  linked : ∀ path inode, s.files path = some inode ↔ (s.inodes inode).path = some path
  fresh : ∀ inode, s.nextInode ≤ inode → (s.inodes inode).path = none
  canonical : ∀ path inode, s.files path = some inode → p.realPath path = path ∧ path ∈ paths
  attr : ∀ path inode hash, s.files path = some inode →
    (s.inodes inode).file.md5Attr = some hash →
      Recorded p contents (lastClosed true s.log path) hash
  content : ∀ path inode, s.files path = some inode → (s.inodes inode).file.content ∈ contents
  copies : ∀ path ∈ paths, some path ≠ behind → ∀ copy, backup p s path = some copy →
    validateFileMD5WithExtendedAttr p (some copy) = true →
      lastClosed true s.log path = some copy.content
  copied : ∀ path ∈ paths, ∀ copy, backup p s path = some copy → copy.content ∈ contents
  closed : ∀ path content, lastClosed true s.log path = some content → content ∈ contents
  same : ∀ path, lastClosed writersOnly s.log path = lastClosed true s.log path
  result : RestoresLastClosed writersOnly s.log

section
variable {p : Platform} {paths : List Path} {contents : List Content} {writersOnly : Bool}
variable {behind : Option Path} {s s' : Store} {name path : Path} {f copy : File}

theorem validate_some :
    validateFileMD5WithExtendedAttr p (some f) = true ↔ f.md5Attr = some (p.md5 f.content) := by
  exact beq_iff_eq

/-! What the operations on the file system keep. -/

theorem Kept.of_eq (h : Kept p paths contents writersOnly behind s) (hfils : s'.files = s.files)
    (hino : s'.inodes = s.inodes) (hnext : s'.nextInode = s.nextInode)
    (hbkps : s'.backups = s.backups) (hlog : s'.log = s.log) :
    Kept p paths contents writersOnly behind s' := by
  obtain ⟨files, inodes, nextInode, descriptors, nextDescriptor, backups, log⟩ := s'
  dsimp only at hfils hino hnext hbkps hlog
  subst hfils hino hnext hbkps hlog
  exact ⟨h.linked, h.fresh, h.canonical, h.attr, h.content, h.copies, h.copied, h.closed, h.same,
    h.result⟩

/-- A copy that is up to date may be taken for one that is behind. -/
theorem Kept.weaken (h : Kept p paths contents writersOnly none s) :
    Kept p paths contents writersOnly behind s :=
  { h with copies := fun path hpath _ => h.copies path hpath (by simp) }

section

variable (h : Kept p paths contents writersOnly behind s)
include h

/-- One path leads to a file. -/
theorem Kept.path_unique {other : Path} {inode : Nat}
    (hfile : s.files path = some inode) (hoth : s.files other = some inode) : other = path := by
  have hlink := (h.linked path inode).1 hfile
  rw [(h.linked other inode).1 hoth] at hlink
  exact some.inj hlink

/-- Events that leave what was closed last. -/
theorem Kept.observe (events : List Event)
    (hclsd : ∀ path, lastClosed true (events ++ s.log) path = lastClosed true s.log path)
    (hsame : ∀ path, lastClosed writersOnly (events ++ s.log) path = lastClosed true s.log path)
    (hres : RestoresLastClosed writersOnly (events ++ s.log)) :
    Kept p paths contents writersOnly behind (s.observe events) where
  linked := h.linked
  fresh := h.fresh
  canonical := h.canonical
  attr := fun path => hclsd path ▸ h.attr path
  content := h.content
  copies := fun path => hclsd path ▸ h.copies path
  copied := h.copied
  closed := fun path => hclsd path ▸ h.closed path
  same := fun path => (hsame path).trans (hclsd path).symm
  result := hres

theorem Kept.error (err : RfsError) :
    Kept p paths contents writersOnly behind (s.observe [.error err name]) :=
  h.observe _ (fun _ => rfl) h.same h.result

end

variable {inode : Nat}

section

variable (h : Kept p paths contents writersOnly behind s)
include h

theorem Kept.setFile (hcont : f.content ∈ contents)
    (hattr : ∀ path hash, s.files path = some inode → f.md5Attr = some hash →
      Recorded p contents (lastClosed true s.log path) hash) :
    Kept p paths contents writersOnly behind (s.setFile inode f) where
  linked := by
    intro path other
    rw [setFile_path]
    exact h.linked path other
  fresh := by
    intro other hoth
    rw [setFile_path]
    exact h.fresh other hoth
  canonical := h.canonical
  attr := by
    intro path other hash hfile hhash
    by_cases heq : other = inode
    · rw [heq] at hfile hhash
      rw [setFile_self] at hhash
      exact hattr path hash hfile hhash
    · rw [s.setFile_of_ne heq] at hhash
      exact h.attr path other hash hfile hhash
  content := by
    intro path other hfile
    by_cases heq : other = inode
    · rw [heq, setFile_self]
      exact hcont
    · rw [s.setFile_of_ne heq]
      exact h.content path other hfile
  copies := h.copies
  copied := h.copied
  closed := h.closed
  same := h.same
  result := h.result

theorem Kept.setContent {content : Content} (hcont : content ∈ contents) :
    Kept p paths contents writersOnly behind (s.setContent inode content) :=
  h.setFile hcont fun path hash hfile hhash => h.attr path inode hash hfile hhash

theorem Kept.create (hnew : s.files path = none)
    (hpath : p.realPath path = path ∧ path ∈ paths) (hcont : f.content ∈ contents)
    (hattr : ∀ hash, f.md5Attr = some hash →
      Recorded p contents (lastClosed true s.log path) hash) :
    Kept p paths contents writersOnly behind (s.create path f) := by
  -- an entry of the new directory is the new file or an old one
  have hfils : ∀ other inode, (s.create path f).files other = some inode →
      (other = path ∧ inode = s.nextInode) ∨
        (s.files other = some inode ∧ inode ≠ s.nextInode) := by
    intro other inode hfile
    change update s.files path (some s.nextInode) other = _ at hfile
    by_cases heq : other = path
    · rw [heq, update_self] at hfile
      exact .inl ⟨heq, (some.inj hfile).symm⟩
    rw [update_of_ne heq] at hfile
    refine .inr ⟨hfile, fun hinod => ?_⟩
    have hold := (h.linked other inode).1 hfile
    rw [h.fresh inode (by omega)] at hold
    cases hold
  have hnewI : (s.create path f).inodes s.nextInode = ⟨f, some path⟩ := update_self ..
  have holdI : ∀ inode, inode ≠ s.nextInode →
      (s.create path f).inodes inode = s.inodes inode :=
    fun inode hne => update_of_ne hne ..
  constructor
  · intro other inode
    constructor
    · intro hfile
      rcases hfils other inode hfile with ⟨rfl, rfl⟩ | ⟨hold, hne⟩
      · rw [hnewI]
      · rw [holdI inode hne]
        exact (h.linked other inode).1 hold
    intro hinod
    change update s.files path (some s.nextInode) other = _
    by_cases hne : inode = s.nextInode
    · rw [hne, hnewI] at hinod
      cases hinod
      rw [update_self, hne]
    rw [holdI inode hne] at hinod
    have hold := (h.linked other inode).2 hinod
    have hoth : other ≠ path := by
      rintro rfl
      rw [hnew] at hold
      cases hold
    rw [update_of_ne hoth]
    exact hold
  · intro inode hinod
    have hinod' : s.nextInode + 1 ≤ inode := hinod
    rw [holdI inode (by omega)]
    exact h.fresh inode (by omega)
  · intro other inode hfile
    rcases hfils other inode hfile with ⟨rfl, rfl⟩ | ⟨hold, hne⟩
    · exact hpath
    · exact h.canonical other inode hold
  · intro other inode hash hfile hhash
    rcases hfils other inode hfile with ⟨rfl, rfl⟩ | ⟨hold, hne⟩
    · rw [hnewI] at hhash
      exact hattr hash hhash
    · rw [holdI inode hne] at hhash
      exact h.attr other inode hash hold hhash
  · intro other inode hfile
    rcases hfils other inode hfile with ⟨rfl, rfl⟩ | ⟨hold, hne⟩
    · rw [hnewI]
      exact hcont
    · rw [holdI inode hne]
      exact h.content other inode hold
  · exact h.copies
  · exact h.copied
  · exact h.closed
  · exact h.same
  · exact h.result

theorem Kept.overwrite
    (hpath : p.realPath path = path ∧ path ∈ paths) (hcont : f.content ∈ contents)
    (hattr : ∀ hash, f.md5Attr = some hash →
      Recorded p contents (lastClosed true s.log path) hash) :
    Kept p paths contents writersOnly behind (s.overwrite path f) := by
  unfold Store.overwrite
  rcases hfile : s.files path with _ | inode
  · exact h.create hfile hpath hcont hattr
  refine h.setFile hcont fun other hash hoth hhash => ?_
  rw [h.path_unique hfile hoth]
  exact hattr hash hhash

theorem Kept.unlink : Kept p paths contents writersOnly behind (s.unlink path) := by
  unfold Store.unlink
  rcases hfile : s.files path with _ | inode
  · exact h
  have hfils : ∀ other next, update s.files path none other = some next →
      s.files other = some next ∧ other ≠ path ∧ next ≠ inode := by
    intro other next hnext
    by_cases heq : other = path
    · rw [heq, update_self] at hnext
      cases hnext
    rw [update_of_ne heq] at hnext
    refine ⟨hnext, heq, ?_⟩
    rintro rfl
    exact heq (h.path_unique hfile hnext)
  constructor
  · intro other next
    constructor
    · intro hnext
      obtain ⟨hold, -, hne⟩ := hfils other next hnext
      change (update s.inodes inode _ next).path = _
      rw [update_of_ne hne]
      exact (h.linked other next).1 hold
    intro hnext
    change (update s.inodes inode _ next).path = _ at hnext
    by_cases hne : next = inode
    · rw [hne, update_self] at hnext
      cases hnext
    rw [update_of_ne hne] at hnext
    have hold := (h.linked other next).2 hnext
    have hoth : other ≠ path := by
      rintro rfl
      rw [hfile] at hold
      exact hne (some.inj hold).symm
    change update s.files path none other = _
    rw [update_of_ne hoth]
    exact hold
  · intro next hnext
    change (update s.inodes inode _ next).path = none
    by_cases hne : next = inode
    · rw [hne, update_self]
    · rw [update_of_ne hne]
      exact h.fresh next hnext
  · intro other next hnext
    exact h.canonical other next (hfils other next hnext).1
  · intro other next hash hnext hhash
    obtain ⟨hold, -, hne⟩ := hfils other next hnext
    change (update s.inodes inode _ next).file.md5Attr = _ at hhash
    rw [update_of_ne hne] at hhash
    exact h.attr other next hash hold hhash
  · intro other next hnext
    obtain ⟨hold, -, hne⟩ := hfils other next hnext
    change (update s.inodes inode _ next).file.content ∈ _
    rw [update_of_ne hne]
    exact h.content other next hold
  · exact h.copies
  · exact h.copied
  · exact h.closed
  · exact h.same
  · exact h.result

end

/-! What a copy holds. -/

/-- A file that matches its attribute has the content that was closed last. -/
theorem Kept.valid (h : Kept p paths contents writersOnly behind s)
    (hfree : CollisionFree p paths contents) (hfile : s.files path = some inode)
    (hval : validateFileMD5WithExtendedAttr p (some (s.inodes inode).file) = true) :
    lastClosed true s.log path = some (s.inodes inode).file.content := by
  have hcont := h.content path inode hfile
  rcases h.attr path inode _ hfile (validate_some.1 hval) with ⟨closed, hclsd, hhash⟩ | hnone
  · rw [hclsd, hfree.md5 closed (h.closed path closed hclsd) _ hcont hhash]
  · exact absurd rfl (hnone _ hcont)

section

variable (h : Kept p paths contents writersOnly (some name) s)
include h

/-- The backup of a file is written; the old copy may be behind unless it cannot be
replaced. -/
theorem kept_backupFile
    (hfree : CollisionFree p paths contents) (hname : p.realPath name = name ∧ name ∈ paths)
    (hfile : s.files name = some inode) (hroom : Replaceable p s.backups name (s.inodes inode).file)
    (hattr : (s.inodes inode).file.md5Attr = none → ∀ copy, backup p s name = some copy →
      copy.md5Attr ≠ some (p.md5 (s.inodes inode).file.content)) :
    Kept p paths contents writersOnly none (backupFileToStorage p s name).1 := by
  have hlook : s.file (p.realPath name) = some (s.inodes inode).file := by
    rw [hname.1, file, hfile]
    rfl
  -- the copy that is written is valid only if the file is
  have hwrtn : ∀ copy : File, copy.content = (s.inodes inode).file.content →
      (validateFileMD5WithExtendedAttr p (some copy) = true →
        validateFileMD5WithExtendedAttr p (some (s.inodes inode).file) = true) →
      Kept p paths contents writersOnly none
        { s with backups := s.backups.insert (p.sha1 name) copy } := by
    intro copy hcont hval
    have hoth : ∀ path ∈ paths, path ≠ name →
        (s.backups.insert (p.sha1 name) copy).lookup (p.sha1 path) = backup p s path := by
      intro path hpath hne
      refine AList.lookup_insert_ne fun hsha1 => hne ?_
      exact hfree.sha1 path hpath name hname.2 hsha1
    refine { h with copies := ?_, copied := ?_ }
    · intro path hpath _ stored hstd hok
      change (s.backups.insert (p.sha1 name) copy).lookup (p.sha1 path) = some stored at hstd
      by_cases hne : path = name
      · rw [hne, AList.lookup_insert] at hstd
        cases hstd
        rw [hne, hcont]
        exact h.valid hfree hfile (hval hok)
      · rw [hoth path hpath hne] at hstd
        refine h.copies path hpath ?_ stored hstd hok
        rintro hsame
        exact hne (some.inj hsame)
    · intro path hpath stored hstd
      change (s.backups.insert (p.sha1 name) copy).lookup (p.sha1 path) = some stored at hstd
      by_cases hne : path = name
      · rw [hne, AList.lookup_insert] at hstd
        cases hstd
        rw [hcont]
        exact h.content name inode hfile
      · rw [hoth path hpath hne] at hstd
        exact h.copied path hpath stored hstd
  unfold backupFileToStorage
  split
  next hfull =>
    refine Kept.error { h with copies := ?_ } _
    intro path hpath _ copy hcopy hval
    by_cases hne : path = name
    · subst hne
      unfold Replaceable at hroom
      change s.backups.lookup (p.sha1 path) = some copy at hcopy
      rw [hcopy] at hroom
      rcases hroom hval with ⟨hok, hcont⟩ | hroom
      · rw [hcont]
        exact h.valid hfree hfile hok
      · exact absurd hroom (by unfold countFiles at hfull; omega)
    · exact h.copies path hpath (by simpa using hne) copy hcopy hval
  next =>
    rw [hlook]
    dsimp only
    cases hhash : (s.inodes inode).file.md5Attr with
    | some hash =>
      refine hwrtn _ rfl fun hval => ?_
      rw [validate_some] at hval ⊢
      rw [hhash]
      exact hval
    | none =>
      refine hwrtn _ rfl fun hval => ?_
      rw [validate_some] at hval
      dsimp only at hval
      cases hold : backup p s name with
      | none =>
        rw [hold] at hval
        cases hval
      | some copy =>
        rw [hold] at hval
        exact absurd hval (hattr hhash copy hold)

theorem kept_refreshBackup
    (hfree : CollisionFree p paths contents) (hname : p.realPath name = name ∧ name ∈ paths)
    (hfile : s.files name = some inode)
    (hval : validateFileMD5WithExtendedAttr p (some (s.inodes inode).file) = true)
    (hroom : Replaceable p s.backups name (s.inodes inode).file) :
    Kept p paths contents writersOnly none
      (refreshBackupIfNeeded p s name (p.md5 (s.inodes inode).file.content)).1 := by
  have hattr := validate_some.1 hval
  have hbkp := kept_backupFile h hfree hname hfile hroom
    (fun hnone => by rw [hnone] at hattr; cases hattr)
  unfold refreshBackupIfNeeded
  rcases hcopy : backup p s name with _ | copy
  · exact hbkp
  dsimp only
  rcases hhash : copy.md5Attr with _ | hash
  · exact hbkp
  dsimp only
  split_ifs with hinv hdiff
  · exact hbkp
  · exact hbkp
  -- the copy has the hash of the file, and with it its content
  have hok : validateFileMD5WithExtendedAttr p (some copy) = true := by simpa using hinv
  have hsame : p.md5 copy.content = p.md5 (s.inodes inode).file.content := by
    rw [validate_some, hhash] at hok
    rw [← some.inj hok, not_not.1 hdiff]
  have hcont := hfree.md5 copy.content (h.copied name hname.2 copy hcopy)
    (s.inodes inode).file.content (h.content name inode hfile) hsame
  refine { h with copies := ?_ }
  intro path hpath _ other hoth hoth'
  by_cases hne : path = name
  · rw [hne] at hoth ⊢
    rw [hcopy] at hoth
    cases hoth
    rw [hcont]
    exact h.valid hfree hfile hval
  · exact h.copies path hpath (by simpa using hne) other hoth hoth'

end

variable {flags : OpenFlags} {fd : Nat}

theorem kept_openFile (h : Kept p paths contents writersOnly behind s)
    (hfree : CollisionFree p paths contents) (hpath : p.realPath path = path ∧ path ∈ paths)
    (hopen : s.openFile path flags = some (s', fd)) :
    Kept p paths contents writersOnly behind s' ∧ s'.log = s.log := by
  unfold openFile at hopen
  cases hfile : s.files path with
  | none =>
    rw [hfile] at hopen
    dsimp only at hopen
    split_ifs at hopen
    cases hopen
    have hcrtd :=
      h.create (f := ⟨[], none⟩) hfile hpath hfree.empty (fun _ hnone => by cases hnone)
    exact ⟨hcrtd.of_eq rfl rfl rfl rfl rfl, rfl⟩
  | some inode =>
    rw [hfile] at hopen
    dsimp only at hopen
    split_ifs at hopen
    · cases hopen
      exact ⟨(h.setContent hfree.empty).of_eq rfl rfl rfl rfl rfl, rfl⟩
    · cases hopen
      exact ⟨h.of_eq rfl rfl rfl rfl rfl, rfl⟩

/-- Where the file is valid, or missing, the refreshed backup is up to date. -/
theorem kept_refreshOnOpen (h : Kept p paths contents writersOnly none s)
    (hfree : CollisionFree p paths contents) (hname : p.realPath name = name ∧ name ∈ paths)
    (hval : ∀ f, s.file name = some f → validateFileMD5WithExtendedAttr p (some f) = true) :
    Kept p paths contents writersOnly none (refreshOnOpen p s name) := by
  unfold refreshOnOpen
  rw [hname.1]
  rcases hfile : s.files name with _ | inode
  · rw [file, hfile]
    exact h
  have hlook : s.file name = some (s.inodes inode).file := by
    rw [file, hfile]
    rfl
  have hok := hval _ hlook
  have hattr := validate_some.1 hok
  have hroom : Replaceable p s.backups name (s.inodes inode).file := by
    unfold Replaceable
    rcases hcopy : s.backups.lookup (p.sha1 name) with _ | copy
    · trivial
    intro hcopy'
    have hclsd := h.copies name hname.2 (by simp) copy hcopy hcopy'
    rw [h.valid hfree hfile hok] at hclsd
    exact .inl ⟨hok, (some.inj hclsd).symm⟩
  have hrfsh := kept_refreshBackup h.weaken hfree hname hfile hok hroom
  rw [hlook]
  cases hf : (s.inodes inode).file with
  | mk content attr =>
    rw [hf] at hattr hrfsh
    dsimp only at hattr hrfsh
    subst hattr
    exact hrfsh

theorem backupFile_closed (path : Path) :
    lastClosed writersOnly (backupFileToStorage p s name).1.log path
      = lastClosed writersOnly s.log path := by
  unfold backupFileToStorage
  split_ifs
  · rfl
  cases s.file (p.realPath name) with
  | none => rfl
  | some f =>
    dsimp only
    cases f.md5Attr <;> rfl

theorem refreshBackup_closed (path : Path) (hash : String) :
    lastClosed writersOnly (refreshBackupIfNeeded p s name hash).1.log path
      = lastClosed writersOnly s.log path := by
  unfold refreshBackupIfNeeded
  rcases backup p s name with _ | copy
  · exact backupFile_closed path
  dsimp only
  rcases copy.md5Attr with _ | backupMd5
  · exact backupFile_closed path
  dsimp only
  split_ifs
  iterate 2 exact backupFile_closed path
  rfl

theorem refreshOnOpen_closed (path : Path) :
    lastClosed writersOnly (refreshOnOpen p s name).log path
      = lastClosed writersOnly s.log path := by
  unfold refreshOnOpen
  split
  · exact refreshBackup_closed path _
  · rfl

section

variable (h : Kept p paths contents writersOnly none s)
include h

theorem kept_openRefreshed
    (hfree : CollisionFree p paths contents) (hname : p.realPath name = name ∧ name ∈ paths)
    (hval : ∀ f, s.file name = some f → validateFileMD5WithExtendedAttr p (some f) = true)
    {events : List Event}
    (hevs : events = [] ∨ ∃ content, events = [.restored name content] ∧
      lastClosed true s.log name = some content) :
    Kept p paths contents writersOnly none (openRefreshed p s name flags events).1 := by
  have hrfsh := kept_refreshOnOpen h hfree hname hval
  unfold openRefreshed
  dsimp only
  rw [hname.1]
  rcases hopen : (refreshOnOpen p s name).openFile name flags with _ | result
  · exact hrfsh
  obtain ⟨opened, fd⟩ := result
  obtain ⟨hopn, hlog⟩ := kept_openFile hrfsh hfree hname hopen
  rcases hevs with rfl | ⟨content, rfl, hcont⟩
  · exact hopn.of_eq rfl rfl rfl rfl rfl
  refine hopn.observe _ (fun _ => rfl) hopn.same ⟨?_, hopn.result⟩
  change lastClosed writersOnly opened.log name = some content
  rw [hopn.same, hlog, refreshOnOpen_closed]
  exact hcont

theorem kept_tafRfsOpen
    (hfree : CollisionFree p paths contents) (hname : p.realPath name = name ∧ name ∈ paths) :
    Kept p paths contents writersOnly none (tafRfsOpen p s name flags).1 := by
  unfold tafRfsOpen
  split_ifs with hneed
  · rcases hrpld : replaceFileWithBackup p s name with _ | restored
    · exact h.error _
    unfold replaceFileWithBackup at hrpld
    rcases hcopy : backup p s name with _ | copy
    · rw [hcopy] at hrpld
      cases hrpld
    rw [hcopy] at hrpld
    dsimp only at hrpld
    split_ifs at hrpld with hok
    cases hrpld
    rw [hname.1]
    have hclsd := h.copies name hname.2 (by simp) copy hcopy hok
    have hcont := h.copied name hname.2 copy hcopy
    have hrstd : Kept p paths contents writersOnly none
        (s.overwrite name ⟨copy.content, some (p.md5 copy.content)⟩) := by
      refine h.overwrite hname hcont fun hash hhash => .inl ⟨copy.content, hclsd, ?_⟩
      exact some.inj hhash
    have hlog : (s.overwrite name ⟨copy.content, some (p.md5 copy.content)⟩).log = s.log := by
      unfold overwrite
      cases s.files name <;> rfl
    have hfile : (s.overwrite name ⟨copy.content, some (p.md5 copy.content)⟩).file name
        = some ⟨copy.content, some (p.md5 copy.content)⟩ := by
      unfold overwrite file
      cases hold : s.files name with
      | none => simp [create]
      | some inode => simp [setFile, hold]
    dsimp only
    rw [hfile]
    dsimp only
    split_ifs with hinv
    · exact hrstd.error _
    refine kept_openRefreshed hrstd hfree hname (fun f hf => ?_)
      (.inr ⟨copy.content, rfl, by rw [hlog]; exact hclsd⟩)
    rw [hfile] at hf
    cases hf
    exact validate_some.2 rfl
  · refine kept_openRefreshed h hfree hname (fun f hf => ?_) (.inl rfl)
    unfold needRestore at hneed
    rw [hname.1, hf] at hneed
    simpa using hneed

end

/-! One step. -/

section

variable (h : Kept p paths contents writersOnly behind s)
include h

theorem kept_write
    {bytes : List UInt8} (hcont : ∀ d, s.descriptors fd = some d → written s d bytes ∈ contents) :
    Kept p paths contents writersOnly behind (s.write fd bytes) := by
  unfold write
  rcases hd : s.descriptors fd with _ | d
  · exact h
  dsimp only
  split_ifs
  · exact h
  all_goals exact (h.setContent (hcont d hd)).of_eq rfl rfl rfl rfl rfl

theorem kept_read (fd size : Nat) : Kept p paths contents writersOnly behind (s.read fd size) := by
  unfold Store.read
  cases s.descriptors fd with
  | none => exact h
  | some d => exact h.of_eq rfl rfl rfl rfl rfl

end

/-- The file is stored with its hash, and the log says so; the backup comes next. -/
theorem kept_closed (h : Kept p paths contents writersOnly none s)
    (hfile : s.files path = some inode) (hcont : f.content ∈ contents)
    (hattr : f.md5Attr = some (p.md5 f.content)) :
    Kept p paths contents writersOnly (some path)
      ((s.setFile inode f).observe [.closed path f.content true]) := by
  have hclsd : ∀ other, lastClosed true
      ((s.setFile inode f).observe [.closed path f.content true]).log other
        = if path = other then some f.content else lastClosed true s.log other := by
    intro other
    change lastClosed true (.closed path f.content true :: s.log) other = _
    simp [lastClosed]
  -- only the path of the inode sees the new attribute
  have hoth : ∀ other next, s.files other = some next → next ≠ inode → path ≠ other := by
    rintro other next hnext hne rfl
    rw [hfile] at hnext
    exact hne (some.inj hnext).symm
  refine ⟨?_, ?_, h.canonical, ?_, ?_, ?_, h.copied, ?_, ?_, h.result⟩
  · intro other next
    refine (h.linked other next).trans ?_
    exact (s.setFile_path inode next f) ▸ Iff.rfl
  · intro next hnext
    exact (s.setFile_path inode next f).trans (h.fresh next hnext)
  · intro other next hash hnext hhash
    change ((s.setFile inode f).inodes next).file.md5Attr = _ at hhash
    rw [hclsd other]
    by_cases hne : next = inode
    · have hsame : path = other := h.path_unique (hne ▸ hnext) hfile
      rw [hne, setFile_self, hattr] at hhash
      rw [if_pos hsame]
      exact .inl ⟨_, rfl, some.inj hhash⟩
    · rw [s.setFile_of_ne hne] at hhash
      rw [if_neg (hoth other next hnext hne)]
      exact h.attr other next hash hnext hhash
  · intro other next hnext
    change ((s.setFile inode f).inodes next).file.content ∈ _
    by_cases hne : next = inode
    · rw [hne, setFile_self]
      exact hcont
    · rw [s.setFile_of_ne hne]
      exact h.content other next hnext
  · intro other hmem hne copy hcopy hval
    rw [hclsd other, if_neg fun heq => hne (by rw [heq])]
    exact h.copies other hmem (by simp) copy hcopy hval
  · intro other content hcont'
    rw [hclsd other] at hcont'
    split_ifs at hcont'
    · cases hcont'
      exact hcont
    · exact h.closed other content hcont'
  · intro other
    rw [hclsd other, ← h.same other]
    change lastClosed writersOnly (.closed path f.content true :: s.log) other = _
    simp [lastClosed]

/-- A reader closes a file that still has the content that was closed last. -/
theorem kept_closedReader (h : Kept p paths contents writersOnly behind s) {content : Content}
    (hcont : writersOnly = false → lastClosed true s.log path = some content) :
    Kept p paths contents writersOnly behind (s.observe [.closed path content false]) := by
  refine h.observe _ (fun other => ?_) (fun other => ?_) h.result
  · simp [lastClosed]
  change lastClosed writersOnly (.closed path content false :: s.log) other = _
  by_cases hsame : path = other ∧ writersOnly = false
  · obtain ⟨rfl, hall⟩ := hsame
    rw [hcont hall]
    simp [lastClosed, hall]
  · rw [← h.same other]
    simp [lastClosed, hsame]

/-- Closing a file; the close of a reader is one of a valid file, or is not looked at. -/
theorem kept_tafRfsClose (h : Kept p paths contents writersOnly none s)
    (hfree : CollisionFree p paths contents)
    (hroom : CloseFindsRoom p s fd) (hread : writersOnly = false → CloseFindsIntact p s fd) :
    Kept p paths contents writersOnly none (tafRfsClose p s fd).1 := by
  have hshut : Kept p paths contents writersOnly none (s.close fd) := h.of_eq rfl rfl rfl rfl rfl
  unfold tafRfsClose
  rcases hd : s.descriptors fd with _ | d
  · exact h
  dsimp only
  rcases hpath : (s.inodes d.inode).path with _ | path
  · exact hshut
  have hfile : s.files path = some d.inode := (h.linked path d.inode).2 hpath
  have hname := h.canonical path d.inode hfile
  split_ifs with hwrts
  swap
  · refine kept_closedReader hshut fun hall => ?_
    have hrea : d.flags.writes = false := by simpa using hwrts
    exact h.valid hfree hfile (hread hall d hd hrea)
  have hclsd := kept_closed (f := ⟨(s.inodes d.inode).file.content,
    some (p.md5 (s.inodes d.inode).file.content)⟩) hshut hfile (h.content path d.inode hfile) rfl
  have hset : (((s.close fd).setFile d.inode ⟨(s.inodes d.inode).file.content,
      some (p.md5 (s.inodes d.inode).file.content)⟩).inodes d.inode).file
      = ⟨(s.inodes d.inode).file.content,
        some (p.md5 (s.inodes d.inode).file.content)⟩ := setFile_self ..
  have hrfsh := kept_refreshBackup hclsd hfree hname hfile
    (validate_some.2 (by rw [observe, hset])) (by
      rw [observe, hset]
      exact hroom d hd hwrts path hpath)
  rw [observe, hset] at hrfsh
  exact hrfsh

theorem unlink_files : (s.unlink path).files path = none := by
  unfold unlink
  cases hfile : s.files path with
  | none => exact hfile
  | some inode => exact update_self ..

theorem unlink_backups : (s.unlink path).backups = s.backups := by
  unfold unlink
  cases s.files path <;> rfl

theorem erase_lookup (hfree : CollisionFree p paths contents) (hname : name ∈ paths)
    (hpath : path ∈ paths) {backups : AList fun _ : String => File} :
    (backups.erase (p.sha1 name)).lookup (p.sha1 path) = some copy ↔
      path ≠ name ∧ backups.lookup (p.sha1 path) = some copy := by
  by_cases hne : path = name
  · rw [hne]
    simp
  · rw [AList.lookup_erase_ne fun hsha1 => hne (hfree.sha1 path hpath name hname hsha1)]
    simp [hne]

theorem kept_tafRfsDelete (h : Kept p paths contents writersOnly none s)
    (hfree : CollisionFree p paths contents) (hname : p.realPath name = name ∧ name ∈ paths) :
    Kept p paths contents writersOnly none (tafRfsDelete p s name) := by
  have hunlk : Kept p paths contents writersOnly none (s.unlink name) := h.unlink
  have hclsd : ∀ writersOnly other, lastClosed writersOnly (.deleted name :: (s.unlink name).log) other
      = if name = other then none else lastClosed writersOnly (s.unlink name).log other :=
    fun _ _ => rfl
  unfold tafRfsDelete
  rw [hname.1]
  refine ⟨hunlk.linked, hunlk.fresh, hunlk.canonical, ?_, hunlk.content, ?_, ?_, ?_,
    ?_, hunlk.result⟩
  · intro path inode hash hfile hhash
    have hne : name ≠ path := by
      rintro rfl
      exact nomatch unlink_files.symm.trans hfile
    rw [hclsd, if_neg hne]
    exact hunlk.attr path inode hash hfile hhash
  · intro path hpath hbeh copy hcopy hval
    obtain ⟨hne, hstd⟩ := (erase_lookup hfree hname.2 hpath).1 hcopy
    rw [hclsd, if_neg (Ne.symm hne)]
    exact hunlk.copies path hpath hbeh copy hstd hval
  · intro path hpath copy hcopy
    exact hunlk.copied path hpath copy ((erase_lookup hfree hname.2 hpath).1 hcopy).2
  · intro path content hcont
    rw [hclsd] at hcont
    split_ifs at hcont
    exact hunlk.closed path content hcont
  · intro path
    rw [hclsd, hclsd, hunlk.same]

variable {source dest : Path}

/-- A file moves to a path that leads nowhere, with what was closed last. -/
theorem kept_moved (h : Kept p paths contents writersOnly none s)
    (hfree : CollisionFree p paths contents)
    (hsrc : s.files source = some inode) (hdest : s.files dest = none) (hmem : source ∈ paths)
    (hcano : p.realPath dest = dest ∧ dest ∈ paths) :
    Kept p paths contents writersOnly (some dest) { s with
      files := update (update s.files source none) dest (some inode)
      inodes := update s.inodes inode { s.inodes inode with path := some dest }
      backups := s.backups.erase (p.sha1 source)
      log := .renamed source dest :: s.log } := by
  have hne : source ≠ dest := by
    rintro rfl
    rw [hsrc] at hdest
    cases hdest
  have hfils : ∀ other next,
      update (update s.files source none) dest (some inode) other = some next →
        (other = dest ∧ next = inode) ∨
          (s.files other = some next ∧ other ≠ dest ∧ other ≠ source ∧ next ≠ inode) := by
    intro other next hnext
    by_cases heq : other = dest
    · rw [heq, update_self] at hnext
      exact .inl ⟨heq, (some.inj hnext).symm⟩
    rw [update_of_ne heq] at hnext
    by_cases hold : other = source
    · rw [hold, update_self] at hnext
      cases hnext
    rw [update_of_ne hold] at hnext
    refine .inr ⟨hnext, heq, hold, ?_⟩
    rintro rfl
    exact hold (h.path_unique hsrc hnext)
  have hclsd : ∀ other, lastClosed true (.renamed source dest :: s.log) other
      = if other = dest then lastClosed true s.log source
        else if other = source then none else lastClosed true s.log other := fun _ => rfl
  constructor
  · intro other next
    change _ ↔ (update s.inodes inode _ next).path = _
    constructor
    · intro hnext
      rcases hfils other next hnext with ⟨rfl, rfl⟩ | ⟨hold, -, -, hinod⟩
      · rw [update_self]
      · rw [update_of_ne hinod]
        exact (h.linked other next).1 hold
    intro hnext
    change update (update s.files source none) dest (some inode) other = _
    by_cases hinod : next = inode
    · rw [hinod, update_self] at hnext
      cases hnext
      rw [update_self, hinod]
    rw [update_of_ne hinod] at hnext
    have hold := (h.linked other next).2 hnext
    have hoth : other ≠ dest := by
      rintro rfl
      rw [hdest] at hold
      cases hold
    have hoth' : other ≠ source := by
      rintro rfl
      rw [hsrc] at hold
      exact hinod (some.inj hold).symm
    rw [update_of_ne hoth, update_of_ne hoth']
    exact hold
  · intro next hnext
    change (update s.inodes inode _ next).path = none
    have hinod : next ≠ inode := by
      rintro rfl
      have hlink := (h.linked source next).1 hsrc
      rw [h.fresh next hnext] at hlink
      cases hlink
    rw [update_of_ne hinod]
    exact h.fresh next hnext
  · intro other next hnext
    rcases hfils other next hnext with ⟨rfl, rfl⟩ | ⟨hold, -, -, -⟩
    · exact hcano
    · exact h.canonical other next hold
  · intro other next hash hnext hhash
    change (update s.inodes inode _ next).file.md5Attr = _ at hhash
    rw [hclsd other]
    rcases hfils other next hnext with ⟨rfl, rfl⟩ | ⟨hold, hoth, hoth', hinod⟩
    · rw [update_self] at hhash
      rw [if_pos rfl]
      exact h.attr source next hash hsrc hhash
    · rw [update_of_ne hinod] at hhash
      rw [if_neg hoth, if_neg hoth']
      exact h.attr other next hash hold hhash
  · intro other next hnext
    change (update s.inodes inode _ next).file.content ∈ _
    rcases hfils other next hnext with ⟨rfl, rfl⟩ | ⟨hold, -, -, hinod⟩
    · rw [update_self]
      exact h.content source next hsrc
    · rw [update_of_ne hinod]
      exact h.content other next hold
  · intro other hoth hbeh copy hcopy hval
    obtain ⟨hsrc', hstd⟩ := (erase_lookup hfree hmem hoth).1 hcopy
    have hdest' : other ≠ dest := fun heq => hbeh (by rw [heq])
    rw [hclsd other, if_neg hdest', if_neg hsrc']
    exact h.copies other hoth (by simp) copy hstd hval
  · intro other hoth copy hcopy
    exact h.copied other hoth copy ((erase_lookup hfree hmem hoth).1 hcopy).2
  · intro other content hcont
    rw [hclsd other] at hcont
    split_ifs at hcont
    · exact h.closed source content hcont
    · exact h.closed other content hcont
  · intro other
    change lastClosed writersOnly (.renamed source dest :: s.log) other
      = lastClosed true (.renamed source dest :: s.log) other
    rw [hclsd other, ← h.same source, ← h.same other]
    rfl
  · exact h.result

theorem unlink_files_of_ne {other : Path} (hne : other ≠ path) :
    (s.unlink path).files other = s.files other := by
  unfold unlink
  cases s.files path with
  | none => rfl
  | some inode => exact update_of_ne hne ..

theorem unlink_file (inode : Nat) : ((s.unlink path).inodes inode).file = (s.inodes inode).file := by
  unfold unlink
  rcases s.files path with _ | other
  · rfl
  by_cases hne : inode = other
  · rw [hne]
    simp
  · change (update s.inodes other _ inode).file = _
    rw [update_of_ne hne]

section

variable (h : Kept p paths contents writersOnly none s) (hfree : CollisionFree p paths contents)
include h hfree

theorem kept_tafRfsCopy (hdest : p.realPath dest = dest ∧ dest ∈ paths) (deletes : Option Path) :
    Kept p paths contents writersOnly none (tafRfsCopy p s source dest deletes) := by
  have hopn : Kept p paths contents writersOnly none (tafRfsOpen p s dest copyFlags).1 :=
    kept_tafRfsOpen h hfree hdest
  unfold tafRfsCopy
  rcases s.files (p.realPath source) with _ | inode
  · exact h
  cases hopen : tafRfsOpen p s dest copyFlags with
  | mk opened fd =>
    rw [hopen] at hopn
    rcases fd with _ | fd
    · exact hopn
    dsimp only
    cases opened.descriptors fd with
    | none => exact hopn
    | some d => exact hopn.of_eq rfl rfl rfl rfl rfl

/-- A file that is renamed to itself keeps its history, and loses its backup. -/
theorem kept_movedSelf (hname : name ∈ paths) :
    Kept p paths contents writersOnly (some name) { s with
      backups := s.backups.erase (p.sha1 name)
      log := .renamed name name :: s.log } := by
  have hersd : Kept p paths contents writersOnly (some name)
      { s with backups := s.backups.erase (p.sha1 name) } := by
    refine { h with copies := ?_, copied := ?_ }
    · intro other hoth _ copy hcopy hval
      exact h.copies other hoth (by simp) copy ((erase_lookup hfree hname hoth).1 hcopy).2 hval
    · intro other hoth copy hcopy
      exact h.copied other hoth copy ((erase_lookup hfree hname hoth).1 hcopy).2
  have hclsd : ∀ b other, lastClosed b (.renamed name name :: s.log) other
      = lastClosed b s.log other := by
    intro b other
    by_cases heq : other = name <;> simp [lastClosed, heq]
  exact hersd.observe [.renamed name name] (hclsd true)
    (fun other => (hclsd _ other).trans (h.same other)) h.result

theorem kept_renamed (hfile : s.files source = some inode) (hsrc : source ∈ paths)
    (hdest : p.realPath dest = dest ∧ dest ∈ paths)
    (hs' : s' = { s.rename source dest with
      backups := (s.rename source dest).backups.erase (p.sha1 source)
      log := .renamed source dest :: (s.rename source dest).log }) :
    Kept p paths contents writersOnly (some dest) s' ∧ s'.files dest = some inode ∧
      (s'.inodes inode).file = (s.inodes inode).file ∧
      s'.backups = s.backups.erase (p.sha1 source) := by
  unfold rename at hs'
  rw [hfile] at hs'
  dsimp only at hs'
  by_cases hsame : source = dest
  · rw [if_pos hsame] at hs'
    subst hsame hs'
    exact ⟨kept_movedSelf h hfree hsrc, hfile, rfl, rfl⟩
  rw [if_neg hsame] at hs'
  have hold : (s.unlink dest).files source = some inode := by rw [unlink_files_of_ne hsame, hfile]
  have hunlk : Kept p paths contents writersOnly none (s.unlink dest) := h.unlink
  have hmov := kept_moved hunlk hfree hold unlink_files hsrc hdest
  subst hs'
  refine ⟨hmov, update_self .., ?_, ?_⟩
  · change (update (s.unlink dest).inodes inode _ inode).file = _
    rw [update_self]
    exact unlink_file inode
  · change (s.unlink dest).backups.erase _ = _
    rw [unlink_backups]

theorem kept_tafRfsRename
    (hnms : Canonical p paths s (.rename source dest)) (hroom : HasRoom p s (.rename source dest))
    (hattr : Detectable p contents s (.rename source dest)) :
    Kept p paths contents writersOnly none (tafRfsRename p s source dest) := by
  obtain ⟨hsrc, hdest⟩ := hnms
  unfold tafRfsRename
  split_ifs with hdev
  · exact kept_tafRfsCopy h hfree hdest _
  have hroom' : ∀ f ∈ s.file (p.realPath source),
      Replaceable p (s.backups.erase (p.sha1 source)) dest f := hroom (not_not.1 hdev)
  have hattr' : ∀ f ∈ s.file (p.realPath source), f.md5Attr = none →
      ∀ copy ∈ (s.backups.erase (p.sha1 source)).lookup (p.sha1 dest),
        copy.md5Attr ≠ some (p.md5 f.content) := hattr
  rw [hsrc.1] at hroom' hattr'
  rw [hsrc.1, hdest.1]
  rcases hfile : s.files source with _ | inode
  · exact h
  have hlook : s.file source = some (s.inodes inode).file := by
    rw [file, hfile]
    rfl
  obtain ⟨hrena, hfile', hcont, hbkps⟩ := kept_renamed h hfree hfile hsrc.2 hdest rfl
  refine kept_backupFile hrena hfree hdest hfile' ?_ ?_
  · rw [hcont, hbkps]
    exact hroom' _ hlook
  rw [hcont]
  intro hnone copy hcopy
  unfold backup at hcopy
  rw [hbkps] at hcopy
  exact hattr' _ hlook hnone copy hcopy

end

theorem kept_tafRfsCopyStep (h : Kept p paths contents writersOnly behind s)
    {short : Option Nat} (hcont : Detectable p contents s (.copyStep fd short)) :
    Kept p paths contents writersOnly behind (tafRfsCopyStep s fd short) := by
  unfold tafRfsCopyStep
  rcases hd : s.descriptors fd with _ | d
  · exact h
  dsimp only
  rcases hsrc : d.source with _ | source
  · exact h
  have hwrtn := hcont d hd source hsrc
  cases short with
  | none =>
    have hmov : Kept p paths contents writersOnly behind (s.setDescriptor fd { d with
        source := some { source with offset := source.offset + (copyChunk s source).length } }) :=
      h.of_eq rfl rfl rfl rfl rfl
    refine kept_write hmov fun d' hd' => ?_
    have hsame : d' = { d with
        source := some { source with offset := source.offset + (copyChunk s source).length } } := by
      change update s.descriptors fd (some _) fd = some d' at hd'
      rw [update_self] at hd'
      exact (some.inj hd').symm
    rw [hsame]
    exact hwrtn
  | some length =>
    have hcont : ∀ d', s.descriptors fd = some d' →
        written s d' ((copyChunk s source).take length) ∈ contents := by
      intro d' hd'
      rw [hd] at hd'
      cases hd'
      exact hwrtn
    have hkept := kept_write h hcont
    exact hkept.of_eq rfl rfl rfl rfl rfl

section

variable (h : Kept p paths contents writersOnly none s)
include h

theorem kept_tafRfsCopyEnd (hfree : CollisionFree p paths contents) {readFails : Bool}
    (hnms : Canonical p paths s (.copyEnd fd readFails))
    (hroom : HasRoom p s (.copyEnd fd readFails))
    (hread : writersOnly = false → ReadsIntact p s (.copyEnd fd readFails)) :
    Kept p paths contents writersOnly none (tafRfsCopyEnd p s fd readFails) := by
  have hclsd := kept_tafRfsClose h hfree hroom hread
  unfold tafRfsCopyEnd
  rcases hd : s.descriptors fd with _ | d
  · exact h
  dsimp only
  rcases hsrc : d.source with _ | source
  · exact h
  dsimp only
  split_ifs
  · exact hclsd
  cases hdels : source.deletes with
  | none => exact hclsd
  | some name => exact kept_tafRfsDelete hclsd hfree (hnms d hd source hsrc name hdels)

theorem kept_step
    (hfree : CollisionFree p paths contents) {a : Action} (hnms : Canonical p paths s a)
    (hroom : HasRoom p s a) (hcont : Detectable p contents s a)
    (hread : writersOnly = false → ReadsIntact p s a) (hstep : step p s a = some s') :
    Kept p paths contents writersOnly none s' := by
  unfold step at hstep
  cases a with
  | «open» name flags =>
    cases hstep
    exact kept_tafRfsOpen h hfree hnms
  | write fd bytes =>
    dsimp only at hstep
    split_ifs at hstep
    cases hstep
    exact kept_write h hcont
  | read fd size =>
    dsimp only at hstep
    split_ifs at hstep
    cases hstep
    exact kept_read h fd size
  | close fd =>
    dsimp only at hstep
    split_ifs at hstep
    cases hstep
    exact kept_tafRfsClose h hfree hroom hread
  | delete name =>
    cases hstep
    exact kept_tafRfsDelete h hfree hnms
  | copy source dest =>
    cases hstep
    exact kept_tafRfsCopy h hfree hnms.2 none
  | copyStep fd short =>
    dsimp only at hstep
    split_ifs at hstep
    cases hstep
    exact kept_tafRfsCopyStep h hcont
  | copyEnd fd readFails =>
    dsimp only at hstep
    split_ifs at hstep
    cases hstep
    exact kept_tafRfsCopyEnd h hfree hnms hroom hread
  | rename source dest =>
    cases hstep
    exact kept_tafRfsRename h hfree hnms hroom hcont
  | lose path =>
    cases hstep
    exact h.unlink
  | corrupt path f =>
    obtain ⟨inode, hfile, rfl⟩ := map_eq_some_iff.1 hstep
    obtain ⟨hmem, hattr⟩ := hcont
    refine h.setFile hmem fun other hash hoth hhash => ?_
    rcases hattr with hnone | ⟨old, hold, hsame⟩ | hfore
    · rw [hnone] at hhash
      cases hhash
    · rw [file, hfile] at hold
      cases hold
      rw [hsame] at hhash
      exact h.attr other inode hash hoth hhash
    · right
      rintro content hcont rfl
      exact hfore content hcont hhash
  | create path content =>
    dsimp only at hstep
    cases hfile : s.files (p.realPath path) with
    | some inode =>
      rw [hfile] at hstep
      cases hstep
    | none =>
      rw [hfile] at hstep
      cases hstep
      exact h.create hfile ⟨p.realPath_realPath path, hnms⟩ hcont fun _ hnone => by cases hnone

end

theorem kept_empty : Kept p paths contents writersOnly none emptyStore := by
  refine ⟨fun _ _ => ?_, fun _ _ => rfl, ?_, ?_, ?_, ?_, ?_, ?_, fun _ => rfl, trivial⟩
  · constructor <;> intro hnone <;> cases hnone
  all_goals intros
  all_goals simp_all [emptyStore, backup, lastClosed]

end

/-- In every run whose files go by the names that the kernel reports, whose hashes tell
files and contents apart, and in which a copy that has to be replaced finds room, a file is
restored with the content that a writer closed last. It is the content that was closed last
at all if readers close only files that match their attribute. -/
theorem restores_last_closed (p : Platform) (paths : List Path) (contents : List Content)
    (hfree : CollisionFree p paths contents) (as : List Action) (s : Store)
    (hnames : Meets (step p) (Canonical p paths) emptyStore as)
    (hcontents : Meets (step p) (Detectable p contents) emptyStore as)
    (hroom : Meets (step p) (HasRoom p) emptyStore as)
    (hrun : exec (step p) emptyStore as = some s) :
    RestoresLastClosed true s.log ∧
      (Meets (step p) (ReadsIntact p) emptyStore as → RestoresLastClosed false s.log) := by
  have hok := (hnames.and hcontents).and hroom
  constructor
  · have hkept : Kept p paths contents true none s :=
      exec_invariant (fun s a t h hok hstep =>
        kept_step h hfree hok.1.1 hok.2 hok.1.2 (fun hfalse => by cases hfalse) hstep)
        kept_empty hok hrun
    exact hkept.result
  intro hreads
  have hkept : Kept p paths contents false none s :=
    exec_invariant (fun s a t h hok hstep =>
      kept_step h hfree hok.1.1.1 hok.1.2 hok.1.1.2 (fun _ => hok.2) hstep)
      kept_empty (hok.and hreads) hrun
  exact hkept.result

/-- A platform with the hashes of the names and contents below, and room for some copies. -/
def samplePlatform (maxFileCount : Nat) : Platform where
  md5 := fun content =>
    if content = [] then "d41d8cd98f00b204e9800998ecf8427e"
    else if content = [0x41] then "7fc56270e7a70fa81a5935b72eacbe29"
    else if content = [0x42] then "9d5ed678fe57bcca610140957afab571"
    else ""
  sha1 := fun name => if name = "/data/a" then "59f7a0b8980acdc1b14329632a880b12cccbabfb" else ""
  realPath := id
  realPath_realPath := fun _ => rfl
  device := fun _ => 0
  maxFileCount := maxFileCount

def writing : OpenFlags := ⟨.writeOnly, true, false, false, false⟩

def reading : OpenFlags := ⟨.readOnly, false, false, false, false⟩

/-- A file is written and closed twice, read, lost, and opened again. -/
def lossAfterUpdate : List Action :=
  [.open "/data/a" writing, .write 0 [0x41], .close 0, .open "/data/a" writing, .write 1 [0x42],
    .close 1, .open "/data/a" reading, .close 2, .lose "/data/a", .open "/data/a" reading]

theorem samplePlatform_collisionFree (maxFileCount : Nat) :
    CollisionFree (samplePlatform maxFileCount) ["/data/a"] [[], [0x41], [0x42]] := by
  refine ⟨?_, ?_, by simp⟩
  · simp
  intro a ha b hb
  simp only [List.mem_cons, List.not_mem_nil, or_false] at ha hb
  rcases ha with rfl | rfl | rfl <;> rcases hb with rfl | rfl | rfl <;> simp [samplePlatform]

/-- With room for two copies the last update is restored. -/
theorem restores_last_closed_update :
    ∃ s, exec (step (samplePlatform 2)) emptyStore lossAfterUpdate = some s ∧
      .restored "/data/a" [0x42] ∈ s.log ∧ RestoresLastClosed true s.log ∧
      RestoresLastClosed false s.log := by
  have hrestored : (exec (step (samplePlatform 2)) emptyStore lossAfterUpdate).map (fun s =>
      decide (Event.restored "/data/a" [0x42] ∈ s.log)) = some true := by decide
  obtain ⟨s, hrun, hmem⟩ := Option.map_eq_some_iff.1 hrestored
  obtain ⟨hwriters, hall⟩ := restores_last_closed (samplePlatform 2) ["/data/a"]
    [[], [0x41], [0x42]] (samplePlatform_collisionFree 2) lossAfterUpdate s (by decide) (by decide)
    (by decide) hrun
  exact ⟨s, hrun, of_decide_eq_true hmem, hwriters, hall (by decide)⟩

/-- With room for one copy the update is closed with success, and the first version of the
file is restored. -/
theorem full_storage_restores_stale :
    ∃ s, exec (step (samplePlatform 1)) emptyStore lossAfterUpdate = some s ∧
      ¬ RestoresLastClosed false s.log ∧ ¬ RestoresLastClosed true s.log := by
  have hstale : (exec (step (samplePlatform 1)) emptyStore lossAfterUpdate).map (fun s =>
      (decide (RestoresLastClosed false s.log), decide (RestoresLastClosed true s.log)))
        = some (false, false) := by decide
  obtain ⟨s, hrun, hres⟩ := Option.map_eq_some_iff.1 hstale
  simp only [Prod.mk.injEq, decide_eq_false_iff_not] at hres
  exact ⟨s, hrun, hres⟩

end TelAF.RfsBackup
