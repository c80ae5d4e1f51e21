import Mathlib.Data.List.Basic

/-!
# Names of files

A path is a list of names between slashes. It is followed from a directory, given by the names that
lead to it from the root, the last one first; no symbolic link is on the way.
-/

namespace TelAF.PathNames

open List

/-- A C string. -/
abbrev Name := List Char

theorem append_slash_inj {a b c d : Name} (ha : '/' ∉ a) (hb : '/' ∉ b)
    (h : a ++ '/' :: c = b ++ '/' :: d) : a = b ∧ c = d := by
  induction a generalizing b with
  | nil =>
    cases b with
    | nil => simpa using h
    | cons x b =>
      have hx : x = '/' := (cons.inj h).1.symm
      simp [hx] at hb
  | cons x a ih =>
    rcases b with _ | ⟨y, b⟩
    · have hx : x = '/' := (cons.inj h).1
      simp [hx] at ha
    obtain ⟨rfl, htail⟩ := cons.inj h
    have ha' : '/' ∉ a := fun hmem => ha (mem_cons_of_mem _ hmem)
    have hb' : '/' ∉ b := fun hmem => hb (mem_cons_of_mem _ hmem)
    obtain ⟨rfl, rfl⟩ := ih ha' hb' htail
    exact ⟨rfl, rfl⟩

/-- A base that ends in a slash, and a name without one after it, are known from the whole. -/
theorem append_name_inj {base base' name name' : Name} (hbase : base.getLast? = some '/')
    (hbase' : base'.getLast? = some '/') (hname : '/' ∉ name) (hname' : '/' ∉ name')
    (h : base ++ name = base' ++ name') : base = base' ∧ name = name' := by
  have hreve : name.reverse ++ base.reverse = name'.reverse ++ base'.reverse := by
    rw [← reverse_append, ← reverse_append, h]
  have hhead : ∀ {b : Name}, b.getLast? = some '/' → ∃ rest, b.reverse = '/' :: rest := by
    intro b hb
    rw [← head?_reverse] at hb
    exact head?_eq_some_iff.1 hb
  obtain ⟨rest, hrest⟩ := hhead hbase
  obtain ⟨rest', hrest'⟩ := hhead hbase'
  rw [hrest, hrest'] at hreve
  obtain ⟨hnms, hrsts⟩ := append_slash_inj (by simpa using hname) (by simpa using hname') hreve
  refine ⟨reverse_injective ?_, reverse_injective hnms⟩
  rw [hrest, hrest', hrsts]

def components : Name → List Name
  | [] => [[]]
  | c :: rest =>
    if c = '/' then [] :: components rest
    else match components rest with
      | [] => [[c]]
      | first :: others => (c :: first) :: others

def walk (dir : List Name) : List Name → List Name
  | [] => dir
  | name :: rest =>
    if name = [] ∨ name = ".".toList then walk dir rest
    else if name = "..".toList then walk dir.tail rest
    else walk (name :: dir) rest

/-- The names never lead above the directory that is so many levels up. -/
def stays : Nat → List Name → Bool
  | _, [] => true
  | depth, name :: rest =>
    if name = [] ∨ name = ".".toList then stays depth rest
    else if name = "..".toList then depth ≠ 0 && stays (depth - 1) rest
    else stays (depth + 1) rest

/-- The file that a path names, for a process that works in the directory. -/
def follow (workingDir : List Name) (path : Name) : List Name :=
  if path.head? = some '/' then walk [] (components path) else walk workingDir (components path)

variable {dir : List Name} {path rest : Name}

theorem components_ne_nil : ∀ path : Name, components path ≠ []
  | [] => by simp [components]
  | c :: rest => by
    unfold components
    split
    · simp
    · split <;> simp

@[simp] theorem components_append_slash (path rest : Name) :
    components (path ++ '/' :: rest) = components path ++ components rest := by
  induction path with
  | nil => simp [components]
  | cons c path ih =>
    rw [cons_append, components, components, ih]
    split
    · rfl
    cases hpath : components path with
    | nil => exact absurd hpath (components_ne_nil path)
    | cons first others => rfl

theorem components_name {name : Name} (h : '/' ∉ name) : components name = [name] := by
  induction name with
  | nil => rfl
  | cons c rest ih =>
    obtain ⟨hc, hrest⟩ := not_or.1 (mt mem_cons.2 h)
    rw [components, if_neg (Ne.symm hc), ih hrest]

@[simp] theorem walk_append (dir names others : List Name) :
    walk dir (names ++ others) = walk (walk dir names) others := by
  induction names generalizing dir with
  | nil => rfl
  | cons name rest ih =>
    rw [cons_append, walk, walk]
    split_ifs
    · exact ih dir
    · exact ih dir.tail
    · exact ih (name :: dir)

/-- Names that stay in a directory lead to it or to a file below it. -/
theorem walk_of_stays {names : List Name} (extra : List Name) (h : stays extra.length names = true) :
    dir <:+ walk (extra ++ dir) names := by
  induction names generalizing extra with
  | nil => exact suffix_append extra dir
  | cons name rest ih =>
    unfold stays at h
    unfold walk
    split
    · rename_i hsame
      rw [if_pos hsame] at h
      exact ih extra h
    rename_i hoth
    rw [if_neg hoth] at h
    split
    · rename_i hup
      rw [if_pos hup] at h
      cases extra with
      | nil => simp at h
      | cons first extra => exact ih extra (by simpa using h)
    · rename_i hdown
      rw [if_neg hdown] at h
      exact ih (name :: extra) (by simpa using h)

end TelAF.PathNames
