import Mathlib.Data.List.Basic
import Mathlib.Order.PiLex

/-!
# The order of app versions

An installed app is only replaced by a newer one. Of the two versions, C strings, one number after
the other is read from a stream, with the character behind it; a stream that is read out or has
failed gives 0. That is the lexicographic order of the numbers, so that no update leads back to an
earlier version.
-/

namespace TelAF.AppMgmt

open Nat List

/-- The characters to be read, while the stream is good. -/
abbrev Stream := Option (List Char)

def isSpace (c : Char) : Bool := c = ' ' || '\t' ≤ c && c ≤ '\r'

def intMax : Nat := 2147483647

/-- The digits of an `int` with its sign. One that is out of range fails, with the nearest value. -/
def readDigits (negative : Bool) (s : List Char) : Int × Stream :=
  let digits := s.takeWhile Char.isDigit
  let value := digits.foldl (fun n c => n * 10 + (c.toNat - '0'.toNat)) 0
  let limit := if negative then intMax + 1 else intMax
  (if negative then -(min value limit : Nat) else (min value limit : Nat),
    if digits = [] ∨ limit < value then none else some (s.dropWhile Char.isDigit))

def readInt (s : List Char) : Int × Stream :=
  match s.dropWhile isSpace with
  | '-' :: rest => readDigits true rest
  | '+' :: rest => readDigits false rest
  | rest => readDigits false rest

/-- `>> d >> dot` -/
def next : Stream → Int × Stream
  | none => (0, none)
  | some s => ((readInt s).1, (readInt s).2.bind fun rest => (rest.dropWhile isSpace).tail?)

/-- The loop over both streams, for at most `n` rounds. -/
def isNewer : Nat → Stream → Stream → Bool
  | 0, _, _ => false
  | n + 1, v1, v2 =>
    if v1.isSome || v2.isSome then
      if (next v1).1 < (next v2).1 then true
      else if (next v1).1 > (next v2).1 then false
      else isNewer n (next v1).2 (next v2).2
    else false

def stream (version : List Char) : Stream := some (version ++ ['.'])

def isValidVersion (version : List Char) : Bool := version.all fun c => c = '.' || c.isDigit

/-- The version of the app, if it is there, and the one that the parser has; each is missing where
it cannot be read. The latter is not checked for other characters, and is the one of an earlier
bundle if this one has none. -/
def isValidToInstall : Option (Option (List Char)) → Option (List Char) → Bool
  | none, _ => true
  | some (some version), some appVersion =>
    if ¬ isValidVersion version then false
    else if version = [] then true
    else if appVersion = [] then false
    else isNewer (version.length + appVersion.length + 4) (stream version) (stream appVersion)
  | _, _ => false

/-- The numbers of a stream in their order. -/
def numbers (v : Stream) : Nat → Int
  | 0 => (next v).1
  | i + 1 => numbers (next v).2 i

def size : Stream → Nat
  | none => 0
  | some s => s.length + 1

section

variable {v v1 v2 : Stream} {n : Nat}

theorem size_readDigits (negative : Bool) {s : List Char} (h : s.length ≤ n) :
    size (readDigits negative s).2 ≤ n + 1 := by
  have hrest := (s.dropWhile_suffix Char.isDigit).length_le
  unfold readDigits
  dsimp only
  generalize (if negative then intMax + 1 else intMax) = limit
  split_ifs
  · exact zero_le _
  · exact succ_le_succ (hrest.trans h)

theorem size_readInt (s : List Char) : size (readInt s).2 ≤ s.length + 1 := by
  have hblan := (s.dropWhile_suffix isSpace).length_le
  unfold readInt
  split
  case h_3 => exact size_readDigits false hblan
  all_goals
    rename_i hrest
    rw [hrest] at hblan
    exact size_readDigits _ ((le_succ _).trans hblan)

theorem size_next : size (next v).2 ≤ size v - 1 := by
  cases v with
  | none => exact le_refl 0
  | some s =>
    have hread := size_readInt s
    change size ((readInt s).2.bind _) ≤ s.length
    cases hrest : (readInt s).2 with
    | none => exact zero_le _
    | some rest =>
      rw [hrest] at hread
      have hblan := (rest.dropWhile_suffix isSpace).length_le
      rw [Option.bind_some]
      cases hdot : rest.dropWhile isSpace with
      | nil => exact zero_le _
      | cons c rest' =>
        rw [hdot] at hblan
        exact hblan.trans (le_of_succ_le_succ hread)

/-- The first numbers decide, or else the ones behind them. -/
theorem lt_iff_numbers : toLex (numbers v1) < toLex (numbers v2) ↔ (next v1).1 < (next v2).1 ∨
    (next v1).1 = (next v2).1 ∧ toLex (numbers (next v1).2) < toLex (numbers (next v2).2) := by
  constructor
  · rintro ⟨i, hbef, hless⟩
    cases i with
    | zero => exact .inl hless
    | succ i =>
      exact .inr ⟨hbef 0 i.succ_pos, i, fun j hj => hbef (j + 1) (succ_lt_succ hj), hless⟩
  · rintro (hless | ⟨heq, i, hbef, hless⟩)
    · exact ⟨0, fun j hj => absurd hj j.not_lt_zero, hless⟩
    · refine ⟨i + 1, fun j hj => ?_, hless⟩
      cases j with
      | zero => exact heq
      | succ j => exact hbef j (lt_of_succ_lt_succ hj)

theorem isNewer_iff (h : size v1 + size v2 ≤ n) :
    isNewer n v1 v2 = true ↔ toLex (numbers v1) < toLex (numbers v2) := by
  have hnone : ¬ toLex (numbers none) < toLex (numbers none) := lt_irrefl _
  induction n generalizing v1 v2 with
  | zero =>
    cases v1 <;> cases v2 <;> simp [size, isNewer, hnone] at h ⊢
  | succ n ih =>
    have hsize1 := @size_next v1
    have hsize2 := @size_next v2
    unfold isNewer
    split_ifs with hgood hless hmore
    · exact iff_of_true rfl (lt_iff_numbers.2 (.inl hless))
    · refine iff_of_false (by decide) fun hlt => ?_
      rcases lt_iff_numbers.1 hlt with hless' | ⟨heq, -⟩
      · exact hless hless'
      · omega
    · have heq : (next v1).1 = (next v2).1 := by omega
      have hpos : 0 < size v1 + size v2 := by
        cases v1 <;> cases v2 <;> simp only [size] at hgood ⊢ <;> grind
      rw [lt_iff_numbers, or_iff_right hless, and_iff_right heq]
      exact ih (by omega)
    · cases v1 <;> cases v2 <;> simp [hnone] at hgood ⊢

/-- The numbers of a version come before those of another one. -/
def Older (version other : List Char) : Prop :=
  toLex (numbers (stream version)) < toLex (numbers (stream other))

theorem isNewer_stream {version appVersion : List Char} :
    isNewer (version.length + appVersion.length + 4) (stream version) (stream appVersion) = true ↔
      Older version appVersion :=
  isNewer_iff (by simp [size, stream]; omega)

end

variable {version appVersion : List Char}

/-- A version that is installed is replaced by a newer one and by no other. -/
theorem isValidToInstall_iff (hvers : version ≠ []) :
    isValidToInstall (some (some version)) (some appVersion) = true ↔
      isValidVersion version = true ∧ appVersion ≠ [] ∧ Older version appVersion := by
  simp only [isValidToInstall, if_neg hvers]
  split_ifs with hval happ
  · simp [happ]
  · rw [isNewer_stream, and_iff_right hval, and_iff_right happ]
  · simp [hval]

/-- However many updates follow one another, each is newer than all versions before it. -/
theorem updates_pairwise (versions : List (List Char)) (hversion : version ≠ [])
    (hupdates : (version :: versions).IsChain fun version appVersion =>
      isValidToInstall (some (some version)) (some appVersion) = true) :
    (version :: versions).Pairwise Older := by
  have htrans : ∀ {a b c}, Older a b → Older b c → Older a c := lt_trans
  induction versions generalizing version with
  | nil => exact pairwise_singleton _ _
  | cons next rest ih =>
    obtain ⟨hnext, hrest⟩ := isChain_cons_cons.1 hupdates
    obtain ⟨-, hne, holder⟩ := (isValidToInstall_iff hversion).1 hnext
    have hpairwise := ih hne hrest
    refine pairwise_cons.2 ⟨?_, hpairwise⟩
    rw [forall_mem_cons]
    exact ⟨holder, fun v hv => htrans holder ((pairwise_cons.1 hpairwise).1 v hv)⟩

theorem updates_pairwise_three : [['1', '.', '9'], ['1', '.', '1', '0'], ['2']].Pairwise Older :=
  updates_pairwise _ (by decide) (by decide)

end TelAF.AppMgmt
