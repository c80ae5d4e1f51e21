import TelAF.FwContext
import TelAF.TransitionRuns

/-!
# Synchronisation of the banks

The service copies the booted bank to the other one in two ways. One goes through the partitions
of the booted bank and gives up at the first failure. The other first sizes the partitions of the
other bank and puts them into a context, and then copies one after the other, where it can be
paused, resumed and cancelled.

What the flash answers is a function of the call. Sizes are 32-bit numbers, so that sizes of
single partitions do not wrap around. The name in the buffer of `SyncPartition` before the first
image is found is not determined.
-/

namespace TelAF.FwUpdate

abbrev PaResult := Int

def flashPageErased : PaResult := -255

def flashPageSize : Nat := 0x1000

structure MtdInfo where
  size : Nat
  eraseSize : Nat
  writeSize : Nat
  erase_pos : 0 < eraseSize
  write_pos : 0 < writeSize

structure Flash where
  openUbiVolume : Name → PaResult
  getUbiVolumeInfo : Name → PaResult × Nat
  closeUbiVolume : Name → PaResult
  copyUbiVolume : Name → Name → Nat → Nat → PaResult
  openMtd : Name → PaResult
  getMtdInfo : Name → PaResult × MtdInfo
  checkMtdGoodBlock : Name → Nat → PaResult × Bool
  readMtdPage : Name → Nat → PaResult
  closeMtd : Name → PaResult
  copyMtd : Name → Name → Nat → PaResult

structure Device where
  layout : Layout
  listed : Bool
  booted : Option Bank
  booted_known : booted ≠ some .unknown
  flash : Flash
  buffer : Name

variable (d : Device)

def Device.partitions : List Partition := initPartitionList d.layout

inductive Sized where
  | bytes (n : Nat)
  | unreadable
  | notClosed
deriving DecidableEq

def sizeUbi (name : Name) : Sized :=
  if d.flash.openUbiVolume name ≠ 0 then .unreadable
  else if (d.flash.getUbiVolumeInfo name).1 ≠ 0 then .unreadable
  else if d.flash.closeUbiVolume name ≠ 0 then .notClosed
  else .bytes (d.flash.getUbiVolumeInfo name).2

/-- Bad blocks are left out, and an erased page ends the image. -/
def sizeBlocks (name : Name) (info : MtdInfo) : List Nat → Nat
  | [] => 0
  | j :: rest =>
    let (ret, isGood) := d.flash.checkMtdGoodBlock name j
    if ret ≠ 0 ∨ ¬ isGood then sizeBlocks name info rest
    else if d.flash.readMtdPage name (j * (info.eraseSize / info.writeSize)) = flashPageErased then 0
    else info.eraseSize + sizeBlocks name info rest

def sizeMtd (name : Name) : Sized :=
  if d.flash.openMtd name ≠ 0 then .unreadable
  else
    let (ret, info) := d.flash.getMtdInfo name
    if ret ≠ 0 then .unreadable
    else if d.flash.closeMtd name ≠ 0 then .notClosed
    else .bytes (sizeBlocks d name info (List.range (info.size / info.eraseSize)))

structure Copy where
  isUbi : Bool
  src : Name
  dst : Name
  bytes : Nat

def copyPartition (c : Copy) : PaResult :=
  if c.isUbi then d.flash.copyUbiVolume c.src c.dst flashPageSize c.bytes
  else d.flash.copyMtd c.src c.dst c.bytes

def copied (c : Copy) : Bool := copyPartition d c = 0 ∨ copyPartition d c = flashPageErased

inductive Outcome where
  | success
  | fail
  | crashed
deriving DecidableEq

def sourceSize (p : Partition) : Sized := if p.isUbi then sizeUbi d p.name else sizeMtd d p.name

def copyFrom (p : Partition) (n : Nat) : Copy := ⟨p.isUbi, p.name, otherName d.layout p, n⟩

def performBankSyncFrom (bootBank : Bank) : List Partition → List Copy → Outcome × List Copy
  | [], copies => (.success, copies)
  | p :: rest, copies =>
    if p.bank = bootBank then
      match sourceSize d p with
      | .bytes n =>
        if copied d (copyFrom d p n) then
          performBankSyncFrom bootBank rest (copies ++ [copyFrom d p n])
        else (.fail, copies)
      | .unreadable | .notClosed => (.fail, copies)
    else performBankSyncFrom bootBank rest copies

def performBankSync : Outcome × List Copy :=
  match d.booted with
  | none => (.fail, [])
  | some bootBank =>
    if ¬ d.listed then (.fail, []) else performBankSyncFrom d bootBank d.partitions []

inductive SyncState where
  | idle
  | synchronizing
  | syncPaused
  | syncSuccess
  | syncFail
  | cancelled
deriving DecidableEq

structure Sync where
  state : SyncState
  percent : Nat
  context : Context
  running : Bool
  crashed : Bool
  copies : List Copy
  reports : List (SyncState × Nat)

def isInactive (bank : Bank) (p : Partition) : Bool :=
  (bank = .a ∧ p.bank = .b) ∨ (bank = .b ∧ p.bank = .a)

/-- An UBI volume is sized itself, for an MTD partition the one it is copied from. -/
def destinationSize (p : Partition) : Sized :=
  if p.isUbi then sizeUbi d p.name else sizeMtd d (otherName d.layout p)

/-- The images to be synchronised with their pages in total. A partition that cannot be sized is
left out, but for an MTD partition that cannot be closed. -/
def initImages (bank : Bank) : List Partition → List Image → Nat → List Image × Option Nat
  | [], images, totalPage => (images, some totalPage)
  | p :: rest, images, totalPage =>
    if isInactive bank p then
      match destinationSize d p with
      | .bytes n =>
        initImages bank rest
          (setImagePageNumber (setImageStatus images p.name false) p.name (n / flashPageSize))
          ((totalPage + n / flashPageSize) % 2 ^ 32)
      | .unreadable => initImages bank rest images totalPage
      | .notClosed => if p.isUbi then initImages bank rest images totalPage else (images, none)
    else initImages bank rest images totalPage

def Sync.updateProgress (s : Sync) (state : SyncState) : Sync :=
  let t := match state with
    | .syncSuccess => { s with percent := 0, state := .idle }
    | .syncFail | .cancelled | .idle => { s with state := .idle }
    | .synchronizing => { s with state := .synchronizing }
    | .syncPaused => { s with state := .syncPaused }
  { t with reports := t.reports ++ [(state, t.percent)] }

def Sync.stop (s : Sync) (state : SyncState) : Sync :=
  { s.updateProgress state with running := false }

def Sync.started (s : Sync) : Sync :=
  { s with context := .clean, percent := 0, state := .synchronizing, copies := [] }

def Sync.setImages (s : Sync) (images : List Image) (totalPage : Nat) : Sync :=
  { s with context := { s.context with images := images, totalPage := totalPage, updatedPage := 0 } }

/-- What follows is `SyncPartition`, which stands for itself. -/
def startSync (s : Sync) : Sync :=
  match d.booted with
  | none => s.started.stop .syncFail
  | some bank =>
    if ¬ d.listed then s.started.stop .syncFail
    else
      match initImages d bank d.partitions [] 0 with
      | (images, none) => (s.started.setImages images 0).stop .syncFail
      | (images, some totalPage) => { s.started.setImages images totalPage with running := true }

def copyTo (p : Partition) (pages : Nat) : Copy :=
  ⟨p.isUbi, otherName d.layout p, p.name, pages * flashPageSize⟩

def Sync.crash (s : Sync) : Sync := { s with running := false, crashed := true }

def imageSynced (s : Sync) (p : Partition) (pages : Nat) : Sync :=
  let updated := (s.context.updatedPage + pages) % 2 ^ 32
  let percent := updated * 100 % 2 ^ 32 / s.context.totalPage
  let t := Sync.updateProgress { s with percent := percent } .synchronizing
  { t with context := { s.context with
    images := setImageStatus s.context.images p.name true, updatedPage := updated } }

/-- The percent is a quotient by the number of all pages. -/
def imageCopied (s : Sync) (p : Partition) (pages : Nat) : Sync :=
  let t := { s with copies := s.copies ++ [copyTo d p pages] }
  if s.context.totalPage = 0 then t.crash else imageSynced t p pages

def syncImage (s : Sync) (p : Partition) : Sync :=
  let pages := getImagePageNumber s.context.images p.name
  if copied d (copyTo d p pages) then imageCopied d s p pages else s.stop .syncFail

/-- One round of the loop of `SyncPartition`. -/
def syncPartition (s : Sync) : Sync :=
  let (updated, name) := getImageForUpdate s.context.images d.buffer
  if updated then s.stop .syncSuccess
  else if ¬ s.context.paused ∧ ¬ s.context.cancel then
    match d.partitions.find? (·.name = name) with
    | none => s.stop .syncFail
    | some p => syncImage d s p
  else if s.context.cancel then s.stop .cancelled
  else s.stop .syncPaused

inductive SyncAction where
  | startSync
  | syncPartition
  | pauseSync
  | cancelSync
  | resumeSync

def pauseSync (s : Sync) : Sync :=
  if s.state ≠ .synchronizing then s else { s with context := { s.context with paused := true } }

def cancelSync (s : Sync) : Sync :=
  if s.state ≠ .synchronizing ∧ s.state ≠ .syncPaused then s
  else
    let t := { s with context := { s.context with cancel := true } }
    if s.state = .syncPaused then t.updateProgress .cancelled else t

def resumeSync (s : Sync) : Sync :=
  { s with context := { s.context with paused := false }, state := .synchronizing, running := true }

/-- The thread handles a request when it is not in the middle of one. -/
def syncStep (s : Sync) : SyncAction → Option Sync
  | .startSync =>
    if ¬ s.crashed ∧ ¬ s.running ∧ s.state = .idle then some (startSync d s) else none
  | .syncPartition => if ¬ s.crashed ∧ s.running then some (syncPartition d s) else none
  | .pauseSync => if s.crashed then none else some (pauseSync s)
  | .cancelSync => if s.crashed then none else some (cancelSync s)
  | .resumeSync =>
    if ¬ s.crashed ∧ ¬ s.running ∧ s.state = .syncPaused then some (resumeSync s) else none

def Sync.initial : Sync := ⟨.idle, 0, .clean, false, false, [], []⟩

/-- How the synchronisation started last came out, once it did. -/
def Sync.outcome (s : Sync) : Option Outcome :=
  if s.crashed then some .crashed
  else if s.running then none
  else
    match s.reports.getLast? with
    | some (.syncSuccess, _) => some .success
    | some (.syncFail, _) => some .fail
    | _ => none

end TelAF.FwUpdate
