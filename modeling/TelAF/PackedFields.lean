import Mathlib.Data.Nat.Bitwise
import Mathlib.Data.List.Basic
import Mathlib.Logic.Function.Basic
import Mathlib.Tactic.SplitIfs

/-!
# Fields packed into bytes

Bytes are read as one stream of bits: bit `i` of the stream is bit `i % 8` of byte `i / 8`,
so that the low bits of a byte come first. A field of width `w` is a window of `w` bits.
Fields are appended one after the other; a writer that only sets bits relies on those of
the byte it continues being clear from its position on.
-/

namespace TelAF.PackedFields

open Function Nat UInt8

/-- Bit `i` of the stream. -/
def bit (m : Nat → UInt8) (i : Nat) : Bool := (m (i / 8)).toNat.testBit (i % 8)

/-- The `w` bits from a position on are those of `v`. -/
def Field (w : Nat) (m : Nat → UInt8) (pos v : Nat) : Prop :=
  ∀ j < w, bit m (pos + j) = v.testBit j

/-- The fields of a list, one after the other from the first bit on. -/
def Fields (w : Nat) (m : Nat → UInt8) (vs : List Nat) : Prop :=
  ∀ k (h : k < vs.length), Field w m (k * w) vs[k]

/-- From a position inside of a byte on, the byte is clear. -/
def Clear (m : Nat → UInt8) (pos : Nat) : Prop :=
  pos % 8 ≠ 0 → ∀ i, pos ≤ i → i / 8 = pos / 8 → bit m i = false

/-- The bytes that `n` bits take. -/
def bytesFor (n : Nat) : Nat := (n + 7) / 8

section Bytes

variable {m : Nat → UInt8} {b : UInt8} {o i index : Nat}

theorem shift_toNat (ho : o < 8) : (ofNat o).toNat % 8 = o := by
  rw [toNat_ofNat']
  omega

theorem testBit_shiftLeft (ho : o < 8) (hi : i < 8) :
    (b <<< UInt8.ofNat o).toNat.testBit i = (decide (o ≤ i) && b.toNat.testBit (i - o)) := by
  rw [UInt8.toNat_shiftLeft, shift_toNat ho, testBit_mod_two_pow]
  simp [hi]

theorem testBit_shiftRight (ho : o < 8) :
    (b >>> UInt8.ofNat o).toNat.testBit i = b.toNat.testBit (o + i) := by
  rw [UInt8.toNat_shiftRight, shift_toNat ho, Nat.testBit_shiftRight]

theorem testBit_or (b' : UInt8) :
    (b ||| b').toNat.testBit i = (b.toNat.testBit i || b'.toNat.testBit i) := by
  rw [UInt8.toNat_or, Nat.testBit_or]

theorem testBit_and_septet :
    (b &&& 0x7F).toNat.testBit i = (decide (i < 7) && b.toNat.testBit i) := by
  have hmask : (0x7F : UInt8).toNat = 2 ^ 7 - 1 := rfl
  rw [UInt8.toNat_and, testBit_and, hmask, testBit_two_pow_sub_one, Bool.and_comm]

theorem testBit_of_le (hi : 8 ≤ i) : b.toNat.testBit i = false :=
  Nat.testBit_eq_false_of_lt ((toNat_lt b).trans_le (Nat.pow_le_pow_right (by decide) hi))

theorem bit_update :
    bit (update m index b) i = if i / 8 = index then b.toNat.testBit (i % 8) else bit m i := by
  unfold bit
  split_ifs with h
  · rw [h, update_self]
  · rw [update_of_ne h]

end Bytes

variable {w : Nat} {m m' : Nat → UInt8} {pos v v' : Nat} {vs : List Nat}

theorem Field.congr (h : Field w m pos v) (hm : ∀ j < w, bit m' (pos + j) = bit m (pos + j)) :
    Field w m' pos v := by
  intro j hj
  rw [hm j hj, h j hj]

theorem Field.unique (h : Field w m pos v) (h' : Field w m pos v') (hv : v < 2 ^ w)
    (hv' : v' < 2 ^ w) : v = v' := by
  apply Nat.eq_of_testBit_eq
  intro j
  by_cases hj : j < w
  · rw [← h j hj, h' j hj]
  · have hle : 2 ^ w ≤ 2 ^ j := Nat.pow_le_pow_right (by decide) (Nat.le_of_not_lt hj)
    rw [Nat.testBit_eq_false_of_lt (hv.trans_le hle), Nat.testBit_eq_false_of_lt (hv'.trans_le hle)]

theorem Fields.nil : Fields w m [] := by
  intro k hk
  exact absurd hk (not_lt_zero k)

theorem Fields.append (h : Fields w m vs) (hfram : ∀ i < vs.length * w, bit m' i = bit m i)
    (hfiel : Field w m' (vs.length * w) v) : Fields w m' (vs ++ [v]) := by
  intro k hk
  by_cases hlt : k < vs.length
  · rw [List.getElem_append_left hlt]
    refine (h k hlt).congr fun j hj => hfram _ ?_
    have hnext : (k + 1) * w ≤ vs.length * w := mul_le_mul_right w hlt
    rw [add_mul] at hnext
    omega
  · rw [List.length_append, List.length_singleton] at hk
    have hk' : k = vs.length := by omega
    subst hk'
    simpa using hfiel

theorem Clear.zero (m : Nat → UInt8) : Clear m 0 := by
  intro h
  exact absurd rfl h

theorem bytesFor_mono {a b : Nat} (h : a ≤ b) : bytesFor a ≤ bytesFor b := by
  unfold bytesFor
  omega

end TelAF.PackedFields
