import Mathlib.Data.List.AList
import Mathlib.Logic.Function.Basic

/-!
# Files with a backup

`taf_rfs` keeps an MD5 attribute with every file that it closes and a copy of the file in
a backup directory, under the SHA-1 of the file's name. A file that is lost or does not
match its attribute is restored from the copy when it is opened.

Files are inodes that the directory reaches by path. The kernel reports the path of an
open descriptor, and none for a file that has no directory entry any more. Names are
resolved to such paths; the backups are filed under the names themselves. System calls on
files that exist succeed. A copy runs in chunks, and its source belongs to the descriptor
of the destination. The log observes a run and no operation reads it.
-/

namespace TelAF.RfsStore

abbrev Path := String

abbrev Content := List UInt8

/-- What the library takes from OpenSSL, from the kernel and from its configuration. -/
structure Platform where
  md5 : Content → String
  sha1 : Path → String
  /-- The path that the kernel reports for a name. -/
  realPath : Path → Path
  realPath_realPath : ∀ name, realPath (realPath name) = realPath name
  device : Path → Nat
  maxFileCount : Nat

structure File where
  content : Content
  md5Attr : Option String

structure Inode where
  file : File
  /-- The path that leads to the file. -/
  path : Option Path

inductive Access where
  | readOnly
  | writeOnly
  | readWrite
deriving DecidableEq

structure OpenFlags where
  access : Access
  creat : Bool
  excl : Bool
  trunc : Bool
  append : Bool

def OpenFlags.writes (flags : OpenFlags) : Bool :=
  flags.access == .writeOnly || flags.access == .readWrite

/-- The file that `taf_rfs_Copy` reads, and whether `taf_rfs_Rename` deletes it afterwards. -/
structure CopySource where
  inode : Nat
  offset : Nat
  deletes : Option Path

structure Descriptor where
  inode : Nat
  flags : OpenFlags
  offset : Nat
  source : Option CopySource

inductive RfsError where
  | noMemory
  | backup
  | restore
deriving DecidableEq

inductive Event where
  /-- `taf_rfs_Close` succeeded for a file with this content. -/
  | closed (path : Path) (content : Content) (writable : Bool)
  /-- `taf_rfs_Open` succeeded and had restored this content. -/
  | restored (path : Path) (content : Content)
  | renamed (source dest : Path)
  | deleted (path : Path)
  | error (err : RfsError) (name : Path)
deriving DecidableEq

structure Store where
  files : Path → Option Nat
  inodes : Nat → Inode
  nextInode : Nat
  descriptors : Nat → Option Descriptor
  nextDescriptor : Nat
  backups : AList fun _ : String => File
  log : List Event

namespace Store
variable (s : Store)

def observe (events : List Event) : Store := { s with log := events ++ s.log }

def file (path : Path) : Option File := (s.files path).map fun inode => (s.inodes inode).file

def setFile (inode : Nat) (f : File) : Store :=
  { s with inodes := Function.update s.inodes inode { s.inodes inode with file := f } }

@[simp] theorem setFile_self (inode : Nat) (f : File) :
    ((s.setFile inode f).inodes inode).file = f := by
  simp [setFile]

theorem setFile_of_ne {inode next : Nat} (h : next ≠ inode) (f : File) :
    (s.setFile inode f).inodes next = s.inodes next :=
  Function.update_of_ne h ..

@[simp] theorem setFile_path (inode next : Nat) (f : File) :
    ((s.setFile inode f).inodes next).path = (s.inodes next).path := by
  by_cases h : next = inode
  · rw [h]
    simp [setFile]
  · rw [s.setFile_of_ne h]

def setContent (inode : Nat) (content : Content) : Store :=
  s.setFile inode { (s.inodes inode).file with content := content }

def create (path : Path) (f : File) : Store :=
  { s with
    files := Function.update s.files path (some s.nextInode)
    inodes := Function.update s.inodes s.nextInode ⟨f, some path⟩
    nextInode := s.nextInode + 1 }

/-- A file is created or its content and attribute replaced. -/
def overwrite (path : Path) (f : File) : Store :=
  match s.files path with
  | some inode => s.setFile inode f
  | none => s.create path f

def unlink (path : Path) : Store :=
  match s.files path with
  | some inode =>
    { s with
      files := Function.update s.files path none
      inodes := Function.update s.inodes inode { s.inodes inode with path := none } }
  | none => s

/-- `rename` replaces the destination; renaming a file to itself does nothing. -/
def rename (source dest : Path) : Store :=
  match s.files source with
  | none => s
  | some inode =>
    if source = dest then s
    else
      let freed := s.unlink dest
      { freed with
        files := Function.update (Function.update freed.files source none) dest (some inode)
        inodes := Function.update freed.inodes inode
          { freed.inodes inode with path := some dest } }

def openDescriptor (inode : Nat) (flags : OpenFlags) : Store × Nat :=
  ({ s with
      descriptors :=
        Function.update s.descriptors s.nextDescriptor (some ⟨inode, flags, 0, none⟩)
      nextDescriptor := s.nextDescriptor + 1 }, s.nextDescriptor)

/-- `open`. -/
def openFile (path : Path) (flags : OpenFlags) : Option (Store × Nat) :=
  match s.files path with
  | some inode =>
    if flags.creat && flags.excl then none
    else
      let truncated := if flags.trunc then s.setContent inode [] else s
      some (truncated.openDescriptor inode flags)
  | none =>
    if flags.creat then some ((s.create path ⟨[], none⟩).openDescriptor s.nextInode flags)
    else none

def close (fd : Nat) : Store := { s with descriptors := Function.update s.descriptors fd none }

end Store

/-- The content of a file after bytes were written at an offset. -/
def writeAt (content : Content) (offset : Nat) (bytes : List UInt8) : Content :=
  if bytes = [] then content
  else content.take offset ++ List.replicate (offset - content.length) 0 ++ bytes ++
    content.drop (offset + bytes.length)

/-- What `write` makes of the file behind a descriptor. -/
def written (s : Store) (d : Descriptor) (bytes : List UInt8) : Content :=
  let content := (s.inodes d.inode).file.content
  writeAt content (if d.flags.append then content.length else d.offset) bytes

namespace Store
variable (s : Store)

def setDescriptor (fd : Nat) (d : Descriptor) : Store :=
  { s with descriptors := Function.update s.descriptors fd (some d) }

/-- `write`, which fails without write permission. -/
def write (fd : Nat) (bytes : List UInt8) : Store :=
  match s.descriptors fd with
  | none => s
  | some d =>
    if d.flags.writes = false then s
    else
      let content := written s d bytes
      let offset := if d.flags.append then (s.inodes d.inode).file.content.length else d.offset
      (s.setContent d.inode content).setDescriptor fd { d with offset := offset + bytes.length }

/-- `read` moves the descriptor. -/
def read (fd size : Nat) : Store :=
  match s.descriptors fd with
  | none => s
  | some d =>
    let left := (s.inodes d.inode).file.content.length - d.offset
    s.setDescriptor fd { d with offset := d.offset + min size left }

end Store

section
variable (p : Platform) (s : Store)

def validateFileMD5WithExtendedAttr (f : Option File) : Bool :=
  match f with
  | none => false
  | some f => f.md5Attr == some (p.md5 f.content)

def backup (name : Path) : Option File := s.backups.lookup (p.sha1 name)

def countFiles : Nat := s.backups.entries.length

/-- The restored file is stored with the hash of what was copied. -/
def replaceFileWithBackup (name : Path) : Option Store :=
  match backup p s name with
  | none => none
  | some copy =>
    if validateFileMD5WithExtendedAttr p (some copy) then
      some (s.overwrite (p.realPath name) ⟨copy.content, some (p.md5 copy.content)⟩)
    else none

/-- The copy takes the attribute of the primary file; writing it keeps the attribute that
stood there. -/
def backupFileToStorage (name : Path) : Store × Bool :=
  if countFiles s ≥ p.maxFileCount then (s.observe [.error .noMemory name], false)
  else
    match s.file (p.realPath name) with
    | none => (s.observe [.error .backup name], false)
    | some f =>
      let attr := match backup p s name with
        | some old => old.md5Attr
        | none => none
      match f.md5Attr with
      | none => ({ s with backups := s.backups.insert (p.sha1 name) ⟨f.content, attr⟩ }, false)
      | some hash =>
        ({ s with backups := s.backups.insert (p.sha1 name) ⟨f.content, some hash⟩ }, true)

def refreshBackupIfNeeded (name : Path) (primaryMd5 : String) : Store × Bool :=
  match backup p s name with
  | none => backupFileToStorage p s name
  | some copy =>
    match copy.md5Attr with
    | none => backupFileToStorage p s name
    | some backupMd5 =>
      if validateFileMD5WithExtendedAttr p (some copy) = false then backupFileToStorage p s name
      else if primaryMd5 ≠ backupMd5 then backupFileToStorage p s name
      else (s, true)

/-- A file without attribute has no hash to refresh the backup with. -/
def refreshOnOpen (name : Path) : Store :=
  match s.file (p.realPath name) with
  | some ⟨_, some primaryMd5⟩ => (refreshBackupIfNeeded p s name primaryMd5).1
  | _ => s

/-- A file that does not match its attribute, or is missing and not to be created. -/
def needRestore (name : Path) (flags : OpenFlags) : Bool :=
  match s.file (p.realPath name) with
  | some f => !validateFileMD5WithExtendedAttr p (some f)
  | none => !flags.creat

/-- The end of `taf_rfs_Open`; an open that fails leaves the refreshed backup. -/
def openRefreshed (name : Path) (flags : OpenFlags) (events : List Event) : Store × Option Nat :=
  let refreshed := refreshOnOpen p s name
  match refreshed.openFile (p.realPath name) flags with
  | none => (refreshed, none)
  | some (opened, fd) => (opened.observe events, some fd)

def tafRfsOpen (name : Path) (flags : OpenFlags) : Store × Option Nat :=
  if needRestore p s name flags then
    match replaceFileWithBackup p s name with
    | none => (s.observe [.error .restore name], none)
    | some restored =>
      match restored.file (p.realPath name) with
      | none => (restored.observe [.error .restore name], none)
      | some f =>
        if validateFileMD5WithExtendedAttr p (some f) = false then
          (restored.observe [.error .restore name], none)
        else openRefreshed p restored name flags [.restored (p.realPath name) f.content]
  else openRefreshed p s name flags []

/-- A file that is closed after writing gets its attribute and its backup, whether or not
the backup succeeds; other files are left as they are. -/
def tafRfsClose (fd : Nat) : Store × Bool :=
  match s.descriptors fd with
  | none => (s, false)
  | some d =>
    let f := (s.inodes d.inode).file
    match (s.inodes d.inode).path with
    | none => (s.close fd, !d.flags.writes)
    | some path =>
      if d.flags.writes then
        let hashed := ((s.close fd).setFile d.inode ⟨f.content, some (p.md5 f.content)⟩).observe
          [.closed path f.content true]
        ((refreshBackupIfNeeded p hashed path (p.md5 f.content)).1, true)
      else ((s.close fd).observe [.closed path f.content false], true)

def tafRfsDelete (name : Path) : Store :=
  let unlinked := s.unlink (p.realPath name)
  { unlinked with
    backups := unlinked.backups.erase (p.sha1 name)
    log := .deleted (p.realPath name) :: unlinked.log }

def copyFlags : OpenFlags := ⟨.writeOnly, true, false, true, false⟩

/-- `taf_rfs_Copy` up to its loop. -/
def tafRfsCopy (source dest : Path) (deletes : Option Path) : Store :=
  match s.files (p.realPath source) with
  | none => s
  | some inode =>
    match tafRfsOpen p s dest copyFlags with
    | (opened, none) => opened
    | (opened, some fd) =>
      match opened.descriptors fd with
      | none => opened
      | some d => opened.setDescriptor fd { d with source := some ⟨inode, 0, deletes⟩ }

def rfsCopyBufferSize : Nat := 8192

def copyChunk (source : CopySource) : List UInt8 :=
  ((s.inodes source.inode).file.content.drop source.offset).take rfsCopyBufferSize

/-- One pass of the loop that reads a chunk and writes as much of it as `written` says; a
short write ends the copy without closing the file through the library. -/
def tafRfsCopyStep (fd : Nat) (short : Option Nat) : Store :=
  match s.descriptors fd with
  | none => s
  | some d =>
    match d.source with
    | none => s
    | some source =>
      let chunk := copyChunk s source
      match short with
      | none =>
        let moved := s.setDescriptor fd
          { d with source := some { source with offset := source.offset + chunk.length } }
        moved.write fd chunk
      | some length => (s.write fd (chunk.take length)).close fd

/-- The end of the loop; a source that could not be read to its end is not deleted. -/
def tafRfsCopyEnd (fd : Nat) (readFails : Bool) : Store :=
  match s.descriptors fd with
  | none => s
  | some d =>
    match d.source with
    | none => s
    | some source =>
      let closed := (tafRfsClose p s fd).1
      if readFails then closed
      else
        match source.deletes with
        | none => closed
        | some name => tafRfsDelete p closed name

def tafRfsRename (source dest : Path) : Store :=
  if p.device (p.realPath source) ≠ p.device (p.realPath dest) then
    tafRfsCopy p s source dest (some source)
  else
    match s.files (p.realPath source) with
    | none => s
    | some _ =>
      let renamed := s.rename (p.realPath source) (p.realPath dest)
      let deleted := { renamed with
        backups := renamed.backups.erase (p.sha1 source)
        log := .renamed (p.realPath source) (p.realPath dest) :: renamed.log }
      (backupFileToStorage p deleted dest).1

end

inductive Action where
  | open (name : Path) (flags : OpenFlags)
  | write (fd : Nat) (bytes : List UInt8)
  | read (fd size : Nat)
  | close (fd : Nat)
  | delete (name : Path)
  | copy (source dest : Path)
  | copyStep (fd : Nat) (short : Option Nat)
  | copyEnd (fd : Nat) (readFails : Bool)
  | rename (source dest : Path)
  /-- A primary file disappears. -/
  | lose (path : Path)
  /-- A primary file changes without the library. -/
  | corrupt (path : Path) (f : File)
  /-- Another program creates a file. -/
  | create (path : Path) (content : Content)

/-- The descriptor belongs to a copy, which reads its source to the end before it ends. -/
def copies (s : Store) (fd : Nat) : Bool := ((s.descriptors fd).bind Descriptor.source).isSome

def copiesAll (s : Store) (fd : Nat) : Bool :=
  match (s.descriptors fd).bind Descriptor.source with
  | none => true
  | some source => (copyChunk s source).isEmpty

/-- One step. Descriptors of a copy belong to its loop. -/
def step (p : Platform) (s : Store) : Action → Option Store
  | .open name flags => some (tafRfsOpen p s name flags).1
  | .write fd bytes => if copies s fd then none else some (s.write fd bytes)
  | .read fd size => if copies s fd then none else some (s.read fd size)
  | .close fd => if copies s fd then none else some (tafRfsClose p s fd).1
  | .delete name => some (tafRfsDelete p s name)
  | .copy source dest => some (tafRfsCopy p s source dest none)
  | .copyStep fd short =>
    if copies s fd = true ∧ copiesAll s fd = false then some (tafRfsCopyStep s fd short) else none
  | .copyEnd fd readFails =>
    if copies s fd = true ∧ (readFails = true ∨ copiesAll s fd = true) then
      some (tafRfsCopyEnd p s fd readFails)
    else none
  | .rename source dest => some (tafRfsRename p s source dest)
  | .lose path => some (s.unlink (p.realPath path))
  | .corrupt path f => (s.files (p.realPath path)).map fun inode => s.setFile inode f
  | .create path content =>
    match s.files (p.realPath path) with
    | none => some (s.create (p.realPath path) ⟨content, none⟩)
    | some _ => none

def emptyStore : Store where
  files := fun _ => none
  inodes := fun _ => ⟨⟨[], none⟩, none⟩
  nextInode := 0
  descriptors := fun _ => none
  nextDescriptor := 0
  backups := ∅
  log := []

end TelAF.RfsStore
