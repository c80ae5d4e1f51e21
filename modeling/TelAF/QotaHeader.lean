import Mathlib.Data.Nat.Basic
import Mathlib.Tactic.SplitIfs

/-!
# Removing the header of a package

What stands behind the header is moved to the front of the file, window by window, and the file is
cut. A window is read before anything is written over it. Writes that miss bytes and a cut that
fails go unnoticed, and a read that fails leaves what has been moved.
-/

namespace TelAF.QotaHeader

def headerSize : Nat := 48
def rwBufferSize : Nat := 4096
def magic : List UInt8 := [0x00, 0x01, 0x02, 0x03]

inductive Result where
  | ok
  | fault
deriving DecidableEq

structure File where
  size : Nat
  bytes : Nat → UInt8

/-- The bytes that a read and the write behind it transfer at a position, at most as many as are
asked for; a call that fails transfers none. -/
structure Transfers where
  opens : Bool
  read : Nat → Nat
  write : Nat → Nat
  truncates : Bool

/-- The check, with a file that can be opened. -/
def checkQotaHeader (f : File) : Result :=
  if f.size ≤ headerSize then .fault
  else if (List.range magic.length).map f.bytes = magic then .ok
  else .fault

section

variable (tr : Transfers)

def Transfers.rdSize (size pos : Nat) : Nat := min (tr.read pos) (min rwBufferSize (size - pos))

/-- The bytes of the window at `pos` that reach the place before it. -/
def File.moveWindow (f : File) (pos n : Nat) : File :=
  { f with bytes := fun i => if pos - headerSize ≤ i ∧
      i < pos - headerSize + n then f.bytes (headerSize + i)
    else f.bytes i }

def removeLoop (pos : Nat) (f : File) : Result × File :=
  if pos < f.size then
    if tr.rdSize f.size pos = 0 then (.fault, f)
    else removeLoop (pos + tr.rdSize f.size pos)
      (f.moveWindow pos (min (tr.write pos) (tr.rdSize f.size pos)))
  else (.ok, f)
termination_by f.size - pos
decreasing_by simp only [File.moveWindow]; omega

def removeQotaHeader (f : File) : Result × File :=
  if tr.opens then
    let moved := removeLoop tr headerSize f
    if moved.1 = .ok ∧ tr.truncates then (.ok, { moved.2 with size := f.size - headerSize }) else moved
  else (.fault, f)

/-- The windows that are written, and whether all are read. -/
def windows (size pos : Nat) : List (Nat × Nat) × Bool :=
  if pos < size then
    if tr.rdSize size pos = 0 then ([], false)
    else
      let rest := windows size (pos + tr.rdSize size pos)
      ((pos - headerSize, min (tr.write pos) (tr.rdSize size pos)) :: rest.1, rest.2)
  else ([], true)
termination_by size - pos

end

def Within (ws : List (Nat × Nat)) (i : Nat) : Prop := ∃ w ∈ ws, w.1 ≤ i ∧ i < w.1 + w.2

instance (ws : List (Nat × Nat)) : DecidablePred (Within ws) :=
  fun _ => inferInstanceAs (Decidable (∃ _ ∈ _, _))

theorem le_of_within {tr : Transfers} {size pos i : Nat} (h : Within (windows tr size pos).1 i) :
    pos - headerSize ≤ i := by
  fun_induction windows tr size pos with
  | case1 | case3 => obtain ⟨_, hw, -⟩ := h; cases hw
  | case2 pos _ _ rest ih =>
    obtain ⟨w, hw, hle, hlt⟩ := h
    rcases List.mem_cons.1 hw with rfl | hw
    · exact hle
    · exact Nat.le_trans (by omega) (ih ⟨w, hw, hle, hlt⟩)

/-- A byte that a window covers has come from behind it, as it was at first; any other is where it
was. -/
theorem removeLoop_spec {tr : Transfers} {pos : Nat} {f : File} (hpos : headerSize ≤ pos) :
    (removeLoop tr pos f).2.size = f.size ∧
    ((removeLoop tr pos f).1 = .ok ↔ (windows tr f.size pos).2 = true) ∧
    ∀ i, (removeLoop tr pos f).2.bytes i =
      if Within (windows tr f.size pos).1 i then f.bytes (headerSize + i) else f.bytes i := by
  fun_induction removeLoop tr pos f with
  | case1 pos f hlt hfls =>
    unfold windows
    simp [hlt, hfls, Within]
  | case2 pos f hlt hreads ih =>
    obtain ⟨hsize, hok, hbyt⟩ := ih (by omega)
    unfold windows
    rw [if_pos hlt, if_neg hreads]
    refine ⟨hsize, hok, fun i => ?_⟩
    rw [hbyt]
    have hlate := @le_of_within tr f.size (pos + tr.rdSize f.size pos) i
    have hrest : Within ((pos - headerSize, min (tr.write pos) (tr.rdSize f.size pos)) ::
        (windows tr f.size (pos + tr.rdSize f.size pos)).1) i ↔
      (pos - headerSize ≤ i ∧ i < pos - headerSize + min (tr.write pos) (tr.rdSize f.size pos)) ∨
        Within (windows tr f.size (pos + tr.rdSize f.size pos)).1 i := by simp [Within]
    simp only [hrest, File.moveWindow]
    by_cases hwthn : Within (windows tr f.size (pos + tr.rdSize f.size pos)).1 i
    · have := hlate hwthn
      simp only [hwthn, or_true, if_true]
      exact if_neg (by omega)
    · simp only [hwthn, or_false, if_false]
  | case3 pos f hend =>
    unfold windows
    simp [hend, Within]

structure Package extends File where
  longer : headerSize < size

def File.Same (f g : File) : Prop := g.size = f.size ∧ ∀ i < f.size, g.bytes i = f.bytes i

/-- What was behind the header is the whole content. -/
def File.Behind (f g : File) : Prop :=
  g.size = f.size - headerSize ∧ ∀ i < g.size, g.bytes i = f.bytes (headerSize + i)

/-- The header is gone, or the failure shows: nothing has changed, or the package is not accepted
again. -/
def Handled (tr : Transfers) (p : Package) : Prop :=
  match removeQotaHeader tr p.toFile with
  | (.ok, f) => p.Behind f
  | (.fault, f) => p.Same f ∨ checkQotaHeader f = .fault

/-- If all is read: a byte that no write has brought forward is as the one it should make room for,
and the file is cut. If a read fails: what has been brought forward is as it was before, or the
magic is gone. -/
def Harmless (tr : Transfers) (p : Package) : Prop :=
  tr.opens = true →
    if (windows tr p.size headerSize).2 then tr.truncates = true ∧ ∀ i < p.size - headerSize,
      ¬ Within (windows tr p.size headerSize).1 i → p.bytes i = p.bytes (headerSize + i)
    else (∀ i < p.size, Within (windows tr p.size headerSize).1 i →
        p.bytes (headerSize + i) = p.bytes i) ∨
      (List.range magic.length).map (fun i => if Within (windows tr p.size headerSize).1 i
        then p.bytes (headerSize + i) else p.bytes i) ≠ magic

theorem handled_iff (tr : Transfers) (p : Package) : Handled tr p ↔ Harmless tr p := by
  unfold Handled Harmless removeQotaHeader
  obtain ⟨hsize, hok, hbytes⟩ := @removeLoop_spec tr headerSize p.toFile (Nat.le_refl headerSize)
  generalize removeLoop tr headerSize p.toFile = moved at *
  obtain ⟨result, f⟩ := moved
  dsimp only at hsize hok hbytes ⊢
  cases tr.opens with
  | false => exact iff_of_true (.inl ⟨rfl, fun _ _ => rfl⟩) nofun
  | true =>
    have hlonger := p.longer
    rw [forall_prop_of_true rfl]
    cases result with
    | ok =>
      rw [if_pos (hok.1 rfl)]
      cases tr.truncates with
      | true =>
        simp [File.Behind, hbytes]
      | false =>
        refine iff_of_false (fun h => ?_) nofun
        have hcut : f.size = p.size - headerSize := h.1
        have : 0 < headerSize := by decide
        omega
    | fault =>
      rw [if_neg fun h => nomatch hok.2 h]
      refine or_congr (by simp [File.Same, hsize, hbytes]) ?_
      rw [checkQotaHeader, hsize, if_neg (Nat.not_le.2 hlonger), funext hbytes]
      simp

/-- A package of 49 bytes whose last byte cannot be written. -/
theorem write_unnoticed :
    ¬ Handled ⟨true, fun _ => 4096, fun _ => 0, true⟩ ⟨⟨49, fun i => .ofNat i⟩, by decide⟩ := by
  unfold Handled removeQotaHeader
  rw [removeLoop, removeLoop]
  intro h
  exact absurd (h.2 0 (by decide)) (by decide)

end TelAF.QotaHeader
