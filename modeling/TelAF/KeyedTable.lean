import Mathlib.Data.List.Nodup
import Mathlib.Data.List.Basic

/-!
# Tables with a primary key

Rows in the order of their insertion, no two of them with one key. A row is read,
replaced and removed by its key; `query` says what a table holds for each key,
and with the order of its keys this determines the table.
-/

namespace TelAF.KeyedTable

open List

@[ext] structure Table (Row : Type*) {Key : Type*} (key : Row → Key) where
  rows : List Row
  nodup : (rows.map key).Nodup

namespace Table

variable {Row Key : Type*} {key : Row → Key}

def keys (t : Table Row key) : List Key := t.rows.map key

def mapRows (t : Table Row key) (f : Row → Row) (hkey : ∀ r, key (f r) = key r) :
    Table Row key where
  rows := t.rows.map f
  nodup := by
    have hkeys : (t.rows.map f).map key = t.rows.map key := by
      rw [List.map_map]
      exact List.map_congr_left fun r _ => hkey r
    rw [hkeys]
    exact t.nodup

@[simp] theorem keys_mapRows (t : Table Row key) (f : Row → Row)
    (hkey : ∀ r, key (f r) = key r) :
    (t.mapRows f hkey).keys = t.keys := by
  unfold keys mapRows
  rw [map_map]
  exact map_congr_left fun r _ => hkey r

theorem mapRows_mapRows (t : Table Row key) {f g : Row → Row} (hf : ∀ r, key (f r) = key r)
    (hg : ∀ r, key (g r) = key r) :
    (t.mapRows f hf).mapRows g hg = t.mapRows (g ∘ f) fun r => (hg (f r)).trans (hf r) :=
  Table.ext map_map

theorem mapRows_congr {t : Table Row key} {f g : Row → Row} {hf : ∀ r, key (f r) = key r}
    {hg : ∀ r, key (g r) = key r} (h : ∀ r ∈ t.rows, f r = g r) :
    t.mapRows f hf = t.mapRows g hg :=
  Table.ext (map_congr_left h)

def filterRows (t : Table Row key) (p : Row → Bool) : Table Row key where
  rows := t.rows.filter p
  nodup := List.Nodup.sublist (List.Sublist.map key List.filter_sublist) t.nodup

theorem filterRows_filterRows (t : Table Row key) (p q : Row → Bool) :
    (t.filterRows p).filterRows q = t.filterRows fun r => p r && q r := by
  apply Table.ext
  change (t.rows.filter p).filter q = t.rows.filter fun r => p r && q r
  rw [filter_filter]
  exact filter_congr fun r _ => Bool.and_comm ..

theorem filterRows_congr {t : Table Row key} {p q : Row → Bool} (h : ∀ r ∈ t.rows, p r = q r) :
    t.filterRows p = t.filterRows q :=
  Table.ext (filter_congr h)

variable [DecidableEq Key]

def query (t : Table Row key) (k : Key) : Option Row := t.rows.find? (key · = k)

/-- Replace the row of the same key; without one, nothing changes. -/
def update (t : Table Row key) (row : Row) : Table Row key :=
  t.mapRows (fun r => if key r = key row then row else r) fun r => by
    split_ifs with h
    · exact h.symm
    · rfl

/-- Append a row; a second row of one key violates the constraint and is not added. -/
def add (t : Table Row key) (row : Row) : Table Row key :=
  if h : key row ∈ t.keys then t else
    { rows := t.rows ++ [row]
      nodup := by
        rw [List.map_append, List.map_singleton]
        exact List.Nodup.append t.nodup (List.nodup_singleton _)
          (List.disjoint_singleton.2 h) }

def remove (t : Table Row key) (k : Key) : Table Row key where
  rows := t.rows.filter (key · ≠ k)
  nodup := List.Nodup.sublist (List.Sublist.map key List.filter_sublist) t.nodup

variable {t t' : Table Row key} {k : Key} {r row : Row}

theorem query_eq_some : t.query k = some r ↔ r ∈ t.rows ∧ key r = k := by
  constructor
  · intro h
    exact ⟨mem_of_find?_eq_some h, by simpa using find?_some h⟩
  rintro ⟨hr, rfl⟩
  cases hfind : t.query (key r) with
  | none =>
    unfold query at hfind
    rw [find?_eq_none] at hfind
    exact absurd (decide_eq_true rfl) (hfind r hr)
  | some r' =>
    have hr' : r' ∈ t.rows := mem_of_find?_eq_some hfind
    have hkey : key r' = key r := by simpa using find?_some hfind
    rw [inj_on_of_nodup_map t.nodup hr' hr hkey]

theorem query_key (h : t.query k = some r) : key r = k := (query_eq_some.1 h).2

theorem query_eq_none : t.query k = none ↔ k ∉ t.keys := by
  unfold query keys
  simp [mem_map]

theorem filter_key : t.rows.filter (key · = k) = (t.query k).toList := by
  cases hqry : t.query k with
  | none =>
    unfold query at hqry
    rw [find?_eq_none] at hqry
    rw [Option.toList_none, filter_eq_nil_iff]
    exact hqry
  | some r =>
    obtain ⟨hr, hkey⟩ := query_eq_some.1 hqry
    have hsame : ∀ r' ∈ t.rows.filter (key · = k), r' = r := by
      intro r' hr'
      obtain ⟨hmem, hkey'⟩ := mem_filter.1 hr'
      exact inj_on_of_nodup_map t.nodup hmem hr ((of_decide_eq_true hkey').trans hkey.symm)
    have hmem : r ∈ t.rows.filter (key · = k) := mem_filter.2 ⟨hr, decide_eq_true hkey⟩
    have hnd : (t.rows.filter (key · = k)).Nodup :=
      List.Nodup.filter _ (List.Nodup.of_map key t.nodup)
    have hle : (t.rows.filter (key · = k)).length ≤ 1 := by
      rw [eq_replicate_of_mem hsame, nodup_replicate] at hnd
      exact hnd
    have hlen : (t.rows.filter (key · = k)).length = 1 :=
      Nat.le_antisymm hle (length_pos_of_mem hmem)
    rw [eq_replicate_of_mem hsame, hlen]
    rfl

theorem query_mapRows (f : Row → Row) (hkey : ∀ r, key (f r) = key r) :
    (t.mapRows f hkey).query k = (t.query k).map f := by
  cases hqry : t.query k with
  | none =>
    rw [query_eq_none, ← keys_mapRows t f hkey, ← query_eq_none] at hqry
    exact hqry
  | some r =>
    rw [Option.map_some, query_eq_some]
    have hr := query_eq_some.1 hqry
    exact ⟨mem_map_of_mem hr.1, (hkey r).trans hr.2⟩

@[simp] theorem keys_update : (t.update row).keys = t.keys := keys_mapRows ..

theorem query_update :
    (t.update row).query k = if k = key row then (t.query k).map fun _ => row else t.query k := by
  unfold update
  rw [query_mapRows]
  cases hqry : t.query k with
  | none => simp
  | some r =>
    rw [Option.map_some, query_key hqry]
    split_ifs <;> rfl

theorem rows_add (h : key row ∉ t.keys) : (t.add row).rows = t.rows ++ [row] := by
  unfold add
  rw [dif_neg h]

theorem rows_update :
    (t.update row).rows = t.rows.map fun r => if key r = key row then row else r := rfl

theorem keys_add (h : key row ∉ t.keys) : (t.add row).keys = t.keys ++ [key row] := by
  unfold add
  rw [dif_neg h]
  exact map_append

theorem query_add (h : key row ∉ t.keys) :
    (t.add row).query k = if k = key row then some row else t.query k := by
  unfold add
  rw [dif_neg h]
  unfold query
  rw [find?_append]
  split_ifs with hk
  · rw [hk]
    have hnone := query_eq_none.2 h
    unfold query at hnone
    rw [hnone]
    simp
  have hrest : find? (fun x => decide (key x = k)) [row] = none := by
    rw [find?_eq_none]
    intro x hx
    rw [mem_singleton.1 hx]
    simpa using fun heq => hk heq.symm
  rw [hrest, Option.or_none]

theorem update_of_query_none (h : t.query (key row) = none) : t.update row = t := by
  have hrows : t.rows.map (fun r => if key r = key row then row else r) = t.rows := by
    conv_rhs => rw [← map_id t.rows]
    apply map_congr_left
    intro r hr
    rw [if_neg]
    · rfl
    · intro hkey
      exact query_eq_none.1 h (mem_map.2 ⟨r, hr, hkey⟩)
  exact Table.ext hrows

theorem foldl_remove_rows (ks : List Key) :
    (ks.foldl remove t).rows = t.rows.filter fun r => key r ∉ ks := by
  induction ks generalizing t with
  | nil => simp
  | cons k ks ih =>
    rw [foldl_cons, ih]
    unfold remove
    rw [filter_filter]
    apply filter_congr
    intro r _
    by_cases hk : key r = k <;> by_cases hks : key r ∈ ks <;> simp [hks]

theorem foldl_remove_eq_filterRows (p : Row → Bool) :
    ((t.rows.filter p).map key).foldl remove t = t.filterRows fun r => !p r := by
  have hrows : (((t.rows.filter p).map key).foldl remove t).rows
      = (t.filterRows fun r => !p r).rows := by
    rw [foldl_remove_rows]
    apply filter_congr
    intro r hr
    have hmem : key r ∈ (t.rows.filter p).map key ↔ p r = true := by
      constructor
      · intro h
        obtain ⟨r', hr', hkey⟩ := mem_map.1 h
        have hsame : r' = r := inj_on_of_nodup_map t.nodup (mem_filter.1 hr').1 hr hkey
        exact hsame ▸ (mem_filter.1 hr').2
      · intro hp
        exact mem_map.2 ⟨r, mem_filter.2 ⟨hr, hp⟩, rfl⟩
    simp [hmem]
  exact Table.ext hrows

end Table

end TelAF.KeyedTable
