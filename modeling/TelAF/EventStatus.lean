import Mathlib.Data.BitVec

/-!
# UDS status bytes

The status byte of an event and of a DTC (`TAF_DIAGEVENT_UDS_STATUS_*`). The
event server only tests, sets and clears single bits and joins the bytes of
several events, so a byte is used through `has` alone: every operation below has
one lemma that says which bits it leaves set.
-/

namespace TelAF.EventStatus

open BitVec

abbrev UdsStatus := BitVec 8

/-- The bits in their order; no function of the event server touches `wir`. -/
inductive StatusBit where
  | tf
  | tftoc
  | pdtc
  | cdtc
  | tncslc
  | tfslc
  | tnctoc
  | wir
deriving DecidableEq

open StatusBit

def StatusBit.mask : StatusBit → UdsStatus
  | tf => 0x01
  | tftoc => 0x02
  | pdtc => 0x04
  | cdtc => 0x08
  | tncslc => 0x10
  | tfslc => 0x20
  | tnctoc => 0x40
  | wir => 0x80

def StatusBit.index : StatusBit → Nat
  | tf => 0
  | tftoc => 1
  | pdtc => 2
  | cdtc => 3
  | tncslc => 4
  | tfslc => 5
  | tnctoc => 6
  | wir => 7

def has (s : UdsStatus) (b : StatusBit) : Bool := s &&& b.mask != 0

def set (s : UdsStatus) (b : StatusBit) : UdsStatus := s ||| b.mask

def reset (s : UdsStatus) (b : StatusBit) : UdsStatus := s &&& ~~~ b.mask

theorem StatusBit.mask_eq (b : StatusBit) : b.mask = twoPow 8 b.index := by cases b <;> rfl

theorem StatusBit.index_lt (b : StatusBit) : b.index < 8 := by cases b <;> decide

theorem StatusBit.exists_index {i : Nat} (hi : i < 8) : ∃ b : StatusBit, b.index = i := by
  have hcas : i = 0 ∨ i = 1 ∨ i = 2 ∨ i = 3 ∨ i = 4 ∨ i = 5 ∨ i = 6 ∨ i = 7 := by omega
  rcases hcas with rfl | rfl | rfl | rfl | rfl | rfl | rfl | rfl
  exacts [⟨tf, rfl⟩, ⟨tftoc, rfl⟩, ⟨pdtc, rfl⟩, ⟨cdtc, rfl⟩, ⟨tncslc, rfl⟩, ⟨tfslc, rfl⟩,
    ⟨tnctoc, rfl⟩, ⟨wir, rfl⟩]

theorem has_eq_getLsbD (s : UdsStatus) (b : StatusBit) : has s b = s.getLsbD b.index := by
  have hpow : twoPow 8 b.index ≠ 0#8 := by cases b <;> decide
  unfold has
  rw [b.mask_eq, and_twoPow]
  cases s.getLsbD b.index with
  | false => rfl
  | true => exact bne_iff_ne.2 hpow

theorem ext_has {s t : UdsStatus} (h : ∀ b, has s b = has t b) : s = t := by
  apply eq_of_getLsbD_eq
  intro i hi
  obtain ⟨b, rfl⟩ := StatusBit.exists_index hi
  rw [← has_eq_getLsbD, ← has_eq_getLsbD, h]

theorem mask_getLsbD (b b' : StatusBit) : b.mask.getLsbD b'.index = decide (b' = b) := by
  cases b <;> cases b' <;> decide

@[simp] theorem has_or (s t : UdsStatus) (b : StatusBit) :
    has (s ||| t) b = (has s b || has t b) := by
  rw [has_eq_getLsbD, getLsbD_or, ← has_eq_getLsbD, ← has_eq_getLsbD]

@[simp] theorem has_zero (b : StatusBit) : has 0#8 b = false := by cases b <;> decide

@[simp] theorem has_set (s : UdsStatus) (b b' : StatusBit) :
    has (set s b) b' = (has s b' || decide (b' = b)) := by
  unfold set
  rw [has_eq_getLsbD, getLsbD_or, mask_getLsbD, ← has_eq_getLsbD]

@[simp] theorem has_reset (s : UdsStatus) (b b' : StatusBit) :
    has (reset s b) b' = (has s b' && !decide (b' = b)) := by
  unfold reset
  rw [has_eq_getLsbD, getLsbD_and, getLsbD_not, mask_getLsbD, ← has_eq_getLsbD]
  simp [b'.index_lt]

/-- The byte that a clear leaves: no test has completed since, and none failed. -/
def clearedStatus : UdsStatus := set (set 0 tncslc) tnctoc

/-- The two bits that a failed result of some event overrules in the byte of its DTC. -/
def maskNotCompleted (s : UdsStatus) : UdsStatus :=
  let s := if has s tfslc then reset s tncslc else s
  if has s tftoc then reset s tnctoc else s

/-- The byte of a DTC as a failed or passed report of one of its events computes it. -/
def combine (statuses : List UdsStatus) : UdsStatus :=
  maskNotCompleted (statuses.foldl (fun s status => s ||| status) 0)

@[simp] theorem has_clearedStatus (b : StatusBit) :
    has clearedStatus b = (decide (b = tncslc) || decide (b = tnctoc)) := by
  simp [clearedStatus]

theorem has_foldl_or (statuses : List UdsStatus) (s : UdsStatus) (b : StatusBit) :
    has (statuses.foldl (fun s status => s ||| status) s) b
      = (has s b || statuses.any fun status => has status b) := by
  induction statuses generalizing s with
  | nil => simp
  | cons status rest ih => rw [List.foldl_cons, ih, has_or, List.any_cons, Bool.or_assoc]

@[simp] theorem has_maskNotCompleted (s : UdsStatus) (b : StatusBit) :
    has (maskNotCompleted s) b
      = (has s b && !(decide (b = tncslc) && has s tfslc || decide (b = tnctoc) && has s tftoc)) := by
  unfold maskNotCompleted
  by_cases hslc : has s tfslc = true <;> by_cases htoc : has s tftoc = true <;>
    cases b <;> simp [hslc, htoc]

/-- A bit of the combined byte is a bit of some event, and the two bits for tests that
have not completed also need that no event has failed. -/
theorem has_combine (statuses : List UdsStatus) (b : StatusBit) :
    has (combine statuses) b
      = ((statuses.any fun status => has status b) &&
        !(decide (b = tncslc) && (statuses.any fun status => has status tfslc) ||
          decide (b = tnctoc) && (statuses.any fun status => has status tftoc))) := by
  simp [combine, has_foldl_or]

end TelAF.EventStatus
