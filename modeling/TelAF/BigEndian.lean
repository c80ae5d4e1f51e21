import Mathlib.Data.List.Induction
import Mathlib.Data.Nat.Digits.Lemmas
import Mathlib.Data.UInt

/-!
# Big-endian numbers and counted fields

A byte list spells a number, most significant byte first, and a number fills a field of
a given width. The two are inverse to each other up to the width. A counted field is a
byte string behind its own length in two bytes; `split_counted` finds it in a message
from the length at its position, and `word_counted` reads the length back.
-/

namespace TelAF.BigEndian

open List Nat UInt8

variable {bs cs rest : List UInt8} {w n p : Nat}

def number (bs : List UInt8) : Nat := Nat.ofDigits 256 (bs.reverse.map UInt8.toNat)

/-- A number in a field of `w` bytes. -/
def field : Nat → Nat → List UInt8
  | 0, _ => []
  | w + 1, n => field w (n / 256) ++ [UInt8.ofNat n]

@[simp] theorem number_nil : number [] = 0 := rfl

theorem number_concat (bs : List UInt8) (b : UInt8) :
    number (bs ++ [b]) = number bs * 256 + b.toNat := by
  rw [number, reverse_concat, map_cons, add_comm, mul_comm]
  rfl

theorem number_pair (a b : UInt8) : number [a, b] = a.toNat * 256 + b.toNat := by
  have ha : number [a] = a.toNat := ofDigits_singleton
  exact number_concat [a] b

theorem number_append (bs cs : List UInt8) :
    number (bs ++ cs) = number bs * 256 ^ cs.length + number cs := by
  rw [number, reverse_append, map_append, ofDigits_append, length_map,
    length_reverse, add_comm, mul_comm]
  rfl

@[simp] theorem number_replicate_zero (k : Nat) : number (replicate k 0) = 0 := by
  induction k with
  | zero => rfl
  | succ k ih => rw [replicate_succ', number_concat, ih]; rfl

theorem number_lt (bs : List UInt8) : number bs < 256 ^ bs.length := by
  have hdig : ∀ d ∈ bs.reverse.map toNat, d < 256 := by
    intro d hd
    obtain ⟨b, _, rfl⟩ := mem_map.1 hd
    exact b.toNat_lt
  have hlt := ofDigits_lt_base_pow_length (by decide : 1 < 256) hdig
  rw [length_map, length_reverse] at hlt
  exact hlt

@[simp] theorem field_length (w n : Nat) : (field w n).length = w := by
  induction w generalizing n with
  | zero => rfl
  | succ w ih => simp [field, ih]

theorem number_field (w n : Nat) : number (field w n) = n % 256 ^ w := by
  induction w generalizing n with
  | zero => simp [field, mod_one]
  | succ w ih =>
    have hbyte : (ofNat n).toNat = n % 256 := by simp
    rw [field, number_concat, ih, pow_succ, mul_comm (256 ^ w) 256, mod_mul]
    omega

theorem number_field_of_lt (h : n < 256 ^ w) : number (field w n) = n := by
  rw [number_field, mod_eq_of_lt h]

theorem field_number (bs : List UInt8) : field bs.length (number bs) = bs := by
  induction bs using reverseRecOn with
  | nil => rfl
  | append_singleton bs b ih =>
    have hb := b.toNat_lt
    have hdiv : (number bs * 256 + b.toNat) / 256 = number bs := by omega
    have hbyte : UInt8.ofNat (number bs * 256 + b.toNat) = b := by
      apply UInt8.toNat_inj.1
      simp only [UInt8.toNat_ofNat']
      omega
    rw [length_append, length_singleton, number_concat, field, hdiv, ih, hbyte]

theorem number_injective (hlen : bs.length = cs.length) (h : number bs = number cs) : bs = cs := by
  rw [← field_number bs, ← field_number cs, hlen, h]

/-- The low bytes of a field are the field of the smaller width. -/
theorem drop_field (h : w ≤ p) : (field p n).drop (p - w) = field w n := by
  induction w generalizing p n with
  | zero =>
    rw [Nat.sub_zero, drop_eq_nil_of_le (field_length p n).le]
    rfl
  | succ w ih =>
    obtain ⟨q, rfl⟩ : ∃ q, p = q + 1 := ⟨p - 1, by omega⟩
    have hdrop : q + 1 - (w + 1) = q - w := by omega
    have hle : q - w ≤ (field q (n / 256)).length := by
      rw [field_length]
      omega
    rw [field, field, hdrop, drop_append_of_le_length hle, ih (by omega)]

theorem shiftLeft_or_toNat {value : UInt32} (b : UInt8) (h : value.toNat < 2 ^ 24) :
    ((value <<< 8) ||| b.toUInt32).toNat = value.toNat * 256 + b.toNat := by
  have hshif : (value <<< (8 : UInt32)).toNat = value.toNat <<< 8 := by
    change value.toNat <<< 8 % 2 ^ 32 = _
    apply mod_eq_of_lt
    omega
  rw [UInt32.toNat_or, hshif, toNat_toUInt32,
    ← shiftLeft_add_eq_or_of_lt (by exact b.toNat_lt : b.toNat < 2 ^ 8), shiftLeft_eq]

def counted (bs : List UInt8) : List UInt8 := field 2 bs.length ++ bs

/-- The 16-bit number at a position of a message. -/
def word (data : List UInt8) (p : Nat) : Nat := number ((data.drop p).take 2)

@[simp] theorem counted_length (bs : List UInt8) : (counted bs).length = bs.length + 2 := by
  simp [counted, add_comm]

theorem word_eq (data : List UInt8) (h : p + 2 ≤ data.length) :
    word data p = (data.getD p 0).toNat * 256 + (data.getD (p + 1) 0).toNat := by
  have h₀ : data[p]? = some data[p] := getElem?_eq_getElem (by omega)
  have h₁ : data[p + 1]? = some data[p + 1] := getElem?_eq_getElem (by omega)
  have htwo : (data.drop p).take 2 = [data[p], data[p + 1]] := by
    rw [drop_eq_getElem_cons (by omega), drop_eq_getElem_cons (by omega)]
    rfl
  rw [word, htwo, number_pair, getD_eq_getElem?_getD, getD_eq_getElem?_getD, h₀, h₁]
  rfl

/-- The length of a counted field behind a head of `p` bytes. -/
theorem word_counted {head : List UInt8} (hhead : head.length = p) (hfits : bs.length < 65536) :
    word (head ++ counted bs ++ rest) p = bs.length := by
  subst hhead
  have htake : ((head ++ counted bs ++ rest).drop head.length).take 2 = field 2 bs.length := by
    rw [append_assoc, drop_left, counted]
    exact take_left' (field_length 2 bs.length)
  rw [word, htake, number_field_of_lt hfits]

theorem word_counted_last {head : List UInt8} (hhead : head.length = p)
    (hfits : bs.length < 65536) : word (head ++ counted bs) p = bs.length := by
  rw [← append_nil (head ++ counted bs)]
  exact word_counted hhead hfits

/-- A message with enough bytes behind a position starts with a counted field there. -/
theorem split_counted {data : List UInt8} (h : p + 2 + word data p ≤ data.length) :
    data.drop p =
      counted ((data.drop (p + 2)).take (word data p)) ++ data.drop (p + 2 + word data p) := by
  have hbody : ((data.drop (p + 2)).take (word data p)).length = word data p := by
    rw [length_take, length_drop]
    omega
  have htwo : ((data.drop p).take 2).length = 2 := by
    rw [length_take, length_drop]
    omega
  have hword : field 2 (word data p) = (data.drop p).take 2 := by
    have hfiel := field_number ((data.drop p).take 2)
    rw [htwo] at hfiel
    exact hfiel
  have hrest : data.drop (p + 2) =
      (data.drop (p + 2)).take (word data p) ++ data.drop (p + 2 + word data p) := by
    have hdrop := take_append_drop (word data p) (data.drop (p + 2))
    rw [drop_drop] at hdrop
    exact hdrop.symm
  calc
    data.drop p = (data.drop p).take 2 ++ (data.drop p).drop 2 := (take_append_drop 2 _).symm
    _ = field 2 (word data p) ++ data.drop (p + 2) := by rw [hword, drop_drop]
    _ = _ := by rw [counted, hbody, append_assoc, ← hrest]

end TelAF.BigEndian
