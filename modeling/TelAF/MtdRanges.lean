import Mathlib.Data.UInt

/-!
# Ranges of an MTD partition

A range is read and written by pages through the adapter of the flash. One that ends in its first
page is handled as it should. Of any longer one the first page is neither copied nor written, and
the loop over the rest stays at the page that follows it. A partition is taken as its reference has
been resolved.
-/

namespace TelAF.Flash

open Nat

inductive Result where
  | ok
  | fault

/-- Memory from a pointer on. -/
abbrev Buffer := Nat → UInt8

def Buffer.from (buffer : Buffer) (pos : Nat) : Buffer := fun i => buffer (pos + i)

def memcpy (dest : Buffer) (pos : Nat) (src : Buffer) (n : Nat) : Buffer :=
  fun i => if pos ≤ i ∧ i < pos + n then src (i - pos) else dest i

abbrev PageSize := { n : Nat // 0 < n }

/-- The adapter of the flash. A page that cannot be read is `none`; an erased one counts as read. -/
structure PaFlash (Mtd : Type) where
  getMtdInfo : Mtd → Option Nat
  readMtdPage : Mtd → Nat → Nat → Option Buffer
  writeMtdPage : Mtd → Nat → Buffer → Nat → Bool × Mtd

section

variable {Mtd : Type} (pa : PaFlash Mtd)

/-- The loop over the pages after the first. The offset has 32 bits. -/
def readRest (writeSize : PageSize) (mtd : Mtd) (index rdSize offset : Nat) (readData : Buffer) :
    Result × Buffer :=
  if rdSize = 0 then (.ok, readData)
  else if writeSize < rdSize then
    match pa.readMtdPage mtd index writeSize with
    | none => (.fault, readData)
    | some page => readRest writeSize mtd index (rdSize - writeSize) ((offset + writeSize) % 2 ^ 32)
        (memcpy readData offset page writeSize)
  else
    match pa.readMtdPage mtd index rdSize with
    | none => (.fault, readData)
    | some page => (.ok, memcpy readData offset page rdSize)
termination_by rdSize
decreasing_by exact Nat.sub_lt_self writeSize.2 (by omega)

def mtdRead (mtd : Mtd) (offset size : Nat) (readData : Buffer) : Result × Buffer :=
  match pa.getMtdInfo mtd with
  | none => (.fault, readData)
  | some writeSize =>
    if h : writeSize = 0 then (.fault, readData)
    else
      let index := offset / writeSize
      let start := offset % writeSize
      match pa.readMtdPage mtd index writeSize with
      | none => (.fault, readData)
      | some buffer =>
        if size + start ≤ writeSize then (.ok, memcpy readData 0 (buffer.from start) size)
        else readRest pa ⟨writeSize, Nat.pos_of_ne_zero h⟩ mtd (index + 1) (size + start - writeSize)
          (writeSize - start) readData

def writeRest (writeSize : PageSize) (mtd : Mtd) (index size offset : Nat) (writeData : Buffer) :
    Result × Mtd :=
  if size = 0 then (.ok, mtd)
  else if writeSize < size then
    let written := pa.writeMtdPage mtd index (writeData.from offset) writeSize
    if written.1 then
      writeRest writeSize written.2 index (size - writeSize) ((offset + writeSize) % 2 ^ 32) writeData
    else (.fault, written.2)
  else
    let written := pa.writeMtdPage mtd index (writeData.from offset) size
    (if written.1 then .ok else .fault, written.2)
termination_by size
decreasing_by exact Nat.sub_lt_self writeSize.2 (by omega)

def mtdWrite (mtd : Mtd) (offset : Nat) (writeData : Buffer) (size : Nat) : Result × Mtd :=
  match pa.getMtdInfo mtd with
  | none => (.fault, mtd)
  | some writeSize =>
    if h : writeSize = 0 then (.fault, mtd)
    else
      let index := offset / writeSize
      let start := offset % writeSize
      match pa.readMtdPage mtd index writeSize with
      | none => (.fault, mtd)
      | some buffer =>
        if size + start ≤ writeSize then
          let written := pa.writeMtdPage mtd index (memcpy buffer start writeData size) writeSize
          (if written.1 then .ok else .fault, written.2)
        else writeRest pa ⟨writeSize, Nat.pos_of_ne_zero h⟩ mtd (index + 1) (size + start - writeSize)
          (writeSize - start) writeData

/-- A storage that works: pages are read as they are, and a write that is not a whole page leaves
the rest of its page open. -/
structure PaFlash.Works (content : Mtd → Buffer) (writeSize pages : Nat) : Prop where
  info : ∀ mtd, pa.getMtdInfo mtd = some writeSize
  read : ∀ mtd index size, index < pages → size ≤ writeSize → ∃ page,
    pa.readMtdPage mtd index size = some page ∧
      ∀ i < size, page i = content mtd (index * writeSize + i)
  written : ∀ mtd index bytes size, index < pages → size ≤ writeSize →
    (pa.writeMtdPage mtd index bytes size).1 = true
  inside : ∀ mtd index bytes size, index < pages → size ≤ writeSize → ∀ i < size,
    content (pa.writeMtdPage mtd index bytes size).2 (index * writeSize + i) = bytes i
  outside : ∀ mtd index bytes size, index < pages → size ≤ writeSize →
    ∀ p, p / writeSize ≠ index →
    content (pa.writeMtdPage mtd index bytes size).2 p = content mtd p

variable (content : Mtd → Buffer)

def ReadsRange (offset size : Nat) : Prop :=
  ∀ mtd readData, (mtdRead pa mtd offset size readData).1 = .ok ∧
    ∀ i < size, (mtdRead pa mtd offset size readData).2 i = content mtd (offset + i)

def WritesRange (partitionSize offset size : Nat) : Prop :=
  ∀ mtd writeData, (mtdWrite pa mtd offset writeData size).1 = .ok ∧
    ∀ p < partitionSize, content (mtdWrite pa mtd offset writeData size).2 p =
      memcpy (content mtd) offset writeData size p

/-- What has been written is read back, from any place in the range and of any size. -/
def ReadsBack (offset size : Nat) : Prop :=
  ∀ mtd writeData readData start size', offset ≤ start → start < offset + size →
    start + size' ≤ offset + size → ∀ i < size',
      (mtdRead pa (mtdWrite pa mtd offset writeData size).2 start size' readData).2 i =
        writeData (start - offset + i)

end

section

variable {Mtd : Type} {pa : PaFlash Mtd} {content : Mtd → Buffer}
  {writeSize pages offset size : Nat}
  (h : pa.Works content writeSize pages) (hpos : 0 < writeSize)
  (hpage : offset % writeSize + size ≤ writeSize)
include h hpos hpage

theorem readsRange_of_page (hin : offset < pages * writeSize) :
    ReadsRange pa content offset size := by
  intro mtd readData
  obtain ⟨page, hread, hbyt⟩ := h.read mtd (offset / writeSize) writeSize
    (Nat.div_lt_of_lt_mul (Nat.mul_comm _ _ ▸ hin)) (Nat.le_refl _)
  have hres : mtdRead pa mtd offset size readData =
      (.ok, memcpy readData 0 (page.from (offset % writeSize)) size) := by
    have hsht : size + offset % writeSize ≤ writeSize := by omega
    simp [mtdRead, h.info, hread, Nat.ne_of_gt hpos, hsht]
  rw [hres]
  refine ⟨rfl, fun i hi => (if_pos (by omega)).trans ((hbyt _ (by omega)).trans ?_)⟩
  rw [← Nat.add_assoc, Nat.div_add_mod', Nat.sub_zero]

theorem writesRange_of_page (hin : offset < pages * writeSize) :
    WritesRange pa content (pages * writeSize) offset size := by
  intro mtd writeData
  have hinde : offset / writeSize < pages := Nat.div_lt_of_lt_mul (Nat.mul_comm _ _ ▸ hin)
  obtain ⟨page, hread, hbyt⟩ := h.read mtd (offset / writeSize) writeSize hinde (Nat.le_refl _)
  have hres : mtdWrite pa mtd offset writeData size = (.ok, (pa.writeMtdPage mtd (offset / writeSize)
      (memcpy page (offset % writeSize) writeData size) writeSize).2) := by
    have hsht : size + offset % writeSize ≤ writeSize := by omega
    simp [mtdWrite, h.info, hread, Nat.ne_of_gt hpos, hsht, h.written mtd _ _ _ hinde (Nat.le_refl _)]
  rw [hres]
  refine ⟨rfl, fun p hp => ?_⟩
  have hoffs := Nat.div_add_mod' offset writeSize
  have hplc := Nat.div_add_mod' p writeSize
  by_cases hsame : p / writeSize = offset / writeSize
  · have hmod := Nat.mod_lt p hpos
    rw [hsame] at hplc
    have hinsi := h.inside mtd _ (memcpy page (offset % writeSize) writeData size) _ hinde
        (Nat.le_refl _) _ hmod
    rw [hplc] at hinsi
    rw [hinsi]
    unfold memcpy
    rw [hbyt _ hmod, hplc, show p % writeSize - offset % writeSize = p - offset by omega]
    exact if_congr (by omega) rfl rfl
  · rw [h.outside mtd _ _ _ hinde (Nat.le_refl _) p hsame]
    refine (if_neg fun ⟨hle, hlt⟩ => hsame (Nat.div_eq_of_lt_le ?_ ?_)).symm
    · exact Nat.le_trans (Nat.div_mul_le_self _ _) hle
    · rw [Nat.succ_mul]
      omega

theorem readsBack_of_page (hin : offset + size ≤ pages * writeSize) :
    ReadsBack pa offset size := by
  intro mtd writeData readData start size' hle hlt hend i hi
  have hoffs := Nat.div_add_mod' offset writeSize
  have hsta := Nat.div_add_mod' start writeSize
  have hsame : start / writeSize = offset / writeSize := by
    apply Nat.div_eq_of_lt_le
    · omega
    · rw [Nat.succ_mul]
      omega
  rw [hsame] at hsta
  rw [(readsRange_of_page h hpos (by omega) (by omega) _ readData).2 i hi,
    (writesRange_of_page h hpos hpage (by omega) mtd writeData).2 _ (by omega)]
  unfold memcpy
  rw [if_pos (by omega), Nat.sub_add_comm hle]

end

/-! ## The loops stay at one page -/

/-- A storage that is an array of bytes. -/
def memory (writeSize : Nat) : PaFlash Buffer where
  getMtdInfo _ := some writeSize
  readMtdPage mtd index _ := some (mtd.from (index * writeSize))
  writeMtdPage mtd index bytes size := (true, memcpy mtd (index * writeSize) bytes size)

theorem memcpy_outside {mtd bytes : Buffer} {writeSize index p n : Nat} (hn : n ≤ writeSize)
    (hp : p / writeSize ≠ index) : memcpy mtd (index * writeSize) bytes n p = mtd p := by
  refine if_neg fun ⟨hle, hlt⟩ => hp (Nat.div_eq_of_lt_le hle ?_)
  rw [Nat.succ_mul]
  omega

theorem memory_works (writeSize pages : Nat) : (memory writeSize).Works id writeSize pages where
  info _ := rfl
  read _ _ _ _ _ := ⟨_, rfl, fun _ _ => rfl⟩
  written _ _ _ _ _ _ := rfl
  inside _ index bytes size _ _ i hi := by simp [memory, memcpy, hi]
  outside _ _ _ _ _ hsize _ := memcpy_outside hsize

section

variable {writeSize : PageSize} {mtd writeData readData : Buffer} {index pages offset size : Nat}

theorem writeRest_outside {p : Nat} (hp : p / writeSize ≠ index) :
    (writeRest (memory writeSize) writeSize mtd index size offset writeData).2 p = mtd p := by
  fun_induction writeRest (memory writeSize) writeSize mtd index size offset writeData with
  | case1 => rfl
  | case2 mtd size offset _ _ written _ ih => exact ih.trans (memcpy_outside (Nat.le_refl _) hp)
  | case3 _ _ _ _ _ _ hfails => exact absurd rfl hfails
  | case4 mtd size offset _ hlast => exact memcpy_outside (Nat.le_of_not_lt hlast) hp

/-- Nothing but the page that follows the first is read. -/
theorem readRest_zero (hpage : ∀ i < writeSize.1, mtd (index * writeSize + i) = 0)
    (h : ∀ i, readData i = 0)
    (i : Nat) : (readRest (memory writeSize) writeSize mtd index size offset readData).2 i = 0 := by
  have hcopy {buffer : Buffer} {pos n : Nat} (hn : n ≤ writeSize) (h : ∀ i, buffer i = 0) (i : Nat) :
      memcpy buffer pos (mtd.from (index * writeSize)) n i = 0 := by
    unfold memcpy
    split_ifs
    · exact hpage _ (by omega)
    · exact h i
  fun_induction readRest (memory writeSize) writeSize mtd index size offset readData with
  | case1 => exact h i
  | case2 _ _ _ _ _ hnone | case4 _ _ _ _ _ hnone => cases hnone
  | case3 _ _ _ _ _ page hread ih =>
    cases hread
    exact ih (hcopy (Nat.le_refl _) h)
  | case5 _ _ _ _ hlast page hread =>
    cases hread
    exact hcopy (Nat.le_of_not_lt hlast) h i

variable (hlong : ¬ offset % writeSize + size ≤ writeSize)
include hlong

theorem not_readsRange : ¬ ReadsRange (memory writeSize) id offset size := by
  intro h
  have hmod := mod_lt offset writeSize.2
  have hfst :=
    (h (fun p => if p / writeSize = offset / writeSize then 1 else 0) fun _ => 0).2 0 (by omega)
  have hread {mtd readData : Buffer} : mtdRead (memory writeSize) mtd offset size readData =
      readRest (memory writeSize) writeSize mtd (offset / writeSize + 1) _ _ readData :=
    (dif_neg (ne_of_gt writeSize.2)).trans (if_neg (by omega))
  have hnext (i : Nat) (hi : i < writeSize) :
      ((offset / writeSize + 1) * writeSize + i) / writeSize ≠ offset / writeSize := by
    rw [mul_comm, mul_add_div writeSize.2, div_eq_of_lt hi]
    omega
  rw [hread, readRest_zero (fun i hi => if_neg (hnext i hi)) fun _ => rfl] at hfst
  simp at hfst

theorem not_writesRange (hin : offset < pages * writeSize) :
    ¬ WritesRange (memory writeSize) id (pages * writeSize) offset size := by
  intro h
  have hmod := mod_lt offset writeSize.2
  have hfst := (h (fun _ => 0) fun _ => 1).2 offset hin
  have hwrit : mtdWrite (memory writeSize) (fun _ => 0) offset (fun _ => 1) size =
      writeRest (memory writeSize) writeSize (fun _ => 0) (offset / writeSize + 1) _ _ _ :=
    (dif_neg (ne_of_gt writeSize.2)).trans (if_neg (by omega))
  rw [hwrit, id, writeRest_outside (by omega)] at hfst
  exact (show (0 : UInt8) ≠ 1 by decide) (hfst.trans (if_pos (by omega)))

end

/-- With any storage that works, the range is read, written and read back as it is meant. -/
def RangeHandled (writeSize pages offset size : Nat) : Prop :=
  ∀ (Mtd : Type) (pa : PaFlash Mtd) (content : Mtd → Buffer), pa.Works content writeSize pages →
    ReadsRange pa content offset size ∧ WritesRange pa content (pages * writeSize) offset size ∧
      ReadsBack pa offset size

/-- Exactly the ranges that end in their first page are handled as they should. -/
theorem rangeHandled_iff (writeSize pages offset size : Nat) (hpos : 0 < writeSize)
    (hin : offset < pages * writeSize) (hend : offset + size ≤ pages * writeSize) :
    RangeHandled writeSize pages offset size ↔ offset % writeSize + size ≤ writeSize := by
  constructor
  · intro h
    by_contra hlong
    exact @not_readsRange ⟨writeSize, hpos⟩ _ _ hlong (h _ _ _ (memory_works writeSize pages)).1
  · exact fun hpage _ pa content h => ⟨readsRange_of_page h hpos hpage hin,
      writesRange_of_page h hpos hpage hin, readsBack_of_page h hpos hpage hend⟩

theorem rangeHandled_page : RangeHandled 2048 4 2148 1948 :=
  (rangeHandled_iff 2048 4 2148 1948 (by decide) (by decide) (by decide)).2 (by decide)

/-- Three bytes from the start, with pages of two. -/
theorem range_not_handled : ¬ ReadsRange (memory 2) id 0 3 ∧
      ¬ WritesRange (memory 2) id (2 * 2) 0 3 :=
  ⟨@not_readsRange ⟨2, by decide⟩ _ _ (by decide),
    @not_writesRange ⟨2, by decide⟩ _ _ _ (by decide) (by decide)⟩

end TelAF.Flash
