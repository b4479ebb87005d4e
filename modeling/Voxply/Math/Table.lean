/-
# Tables with a primary key

A table is the list of its rows in insertion order together with the proof that
no two rows share a key, so a lookup by key never has to say which of several
rows it means.  The operations are those of SQL statements on one table: look a
row up, insert it or leave the table alone, insert it or rewrite the row in its
place, rewrite the rows that satisfy a condition, delete the others.
-/

import Mathlib.Data.List.Nodup
import Mathlib.Data.Set.Finite.Basic
import Mathlib.Tactic.Common

namespace Voxply.Math

universe u v

/-- Rows of type `α` whose keys are pairwise distinct. -/
structure Table (α : Type u) {κ : Type v} (key : α → κ) where
  rows : List α
  nodup : (rows.map key).Nodup

/-- At most one element has a given key, if no two have the same. -/
theorem length_filter_le_one {α : Type u} {κ : Type v} [DecidableEq κ] {key : α → κ}
    {rows : List α} (h : (rows.map key).Nodup) (k : κ) :
    (rows.filter (key · = k)).length ≤ 1 := by
  have hkeys : (rows.filter (key · = k)).map key =
      List.replicate (rows.filter (key · = k)).length k := by
    rw [List.eq_replicate_iff, List.length_map]
    refine ⟨rfl, fun k' hk' => ?_⟩
    obtain ⟨row, hrow, rfl⟩ := List.mem_map.mp hk'
    simpa using (List.mem_filter.mp hrow).2
  apply List.nodup_replicate.mp
  rw [← hkeys]
  exact h.sublist (List.filter_sublist.map key)

namespace Table

variable {α : Type u} {κ : Type v} {key : α → κ}

@[ext]
theorem ext {first second : Table α key} (h : first.rows = second.rows) : first = second := by
  cases first
  cases second
  congr

instance [DecidableEq α] : DecidableEq (Table α key) := fun first second =>
  decidable_of_iff (first.rows = second.rows) Table.ext_iff.symm

instance : EmptyCollection (Table α key) where
  emptyCollection := ⟨[], List.nodup_nil⟩

instance : Inhabited (Table α key) := ⟨∅⟩

theorem eq_of_key_eq (table : Table α key) {first second : α} (hfirst : first ∈ table.rows)
    (hsecond : second ∈ table.rows) (hkey : key first = key second) : first = second :=
  List.inj_on_of_nodup_map table.nodup hfirst hsecond hkey

/-- Two tables with the same rows, in whatever order. -/
def SameRows (first second : Table α key) : Prop :=
  ∀ row, row ∈ first.rows ↔ row ∈ second.rows

theorem SameRows.refl (table : Table α key) : table.SameRows table :=
  fun _ => Iff.rfl

/-- The table with one row. -/
def single (row : α) : Table α key := ⟨[row], List.nodup_singleton _⟩

@[simp]
theorem rows_single (row : α) : (single row : Table α key).rows = [row] := rfl

/-! ## Rewriting and deleting rows -/

/-- `DELETE`: only the rows that satisfy the condition stay. -/
def keep (table : Table α key) (p : α → Bool) : Table α key where
  rows := table.rows.filter p
  nodup := table.nodup.sublist (List.filter_sublist.map key)

/-- `UPDATE … WHERE`: rewrite the rows that satisfy the condition; the key
column is not among the columns written. -/
def update (table : Table α key) (p : α → Bool) (f : α → α)
    (hkey : ∀ row, key (f row) = key row) : Table α key where
  rows := table.rows.map fun row => if p row then f row else row
  nodup := by
    rw [List.map_map]
    have hsame : (key ∘ fun row => if p row then f row else row) = key := by
      funext row
      by_cases hp : p row <;> simp [hp, hkey]
    rw [hsame]
    exact table.nodup

@[simp]
theorem rows_keep (table : Table α key) (p : α → Bool) :
    (table.keep p).rows = table.rows.filter p := rfl

@[simp]
theorem rows_update (table : Table α key) (p : α → Bool) (f : α → α)
    (hkey : ∀ row, key (f row) = key row) :
    (table.update p f hkey).rows = table.rows.map fun row => if p row then f row else row := rfl

/-- An update that rewrites every row to itself. -/
theorem update_eq_self (table : Table α key) {p : α → Bool} {f : α → α}
    (hkey : ∀ row, key (f row) = key row) (h : ∀ row ∈ table.rows, p row = true → f row = row) :
    table.update p f hkey = table := by
  apply Table.ext
  have hid : ∀ row ∈ table.rows, (if p row then f row else row) = id row := by
    intro row hrow
    by_cases hp : p row = true
    · rw [if_pos hp, h row hrow hp]
      rfl
    · rw [if_neg hp]
      rfl
  rw [rows_update, List.map_congr_left hid, List.map_id]

/-- Two updates of the same rows agree exactly if they rewrite each of them alike. -/
theorem update_eq_update_iff (table : Table α key) {p : α → Bool} {f g : α → α}
    (hf : ∀ row, key (f row) = key row) (hg : ∀ row, key (g row) = key row) :
    table.update p f hf = table.update p g hg ↔ ∀ row ∈ table.rows, p row = true →
    f row = g row := by
  constructor
  · intro h row hrow hp
    have hrows := congrArg Table.rows h
    rw [rows_update, rows_update, List.map_inj_left] at hrows
    simpa [hp] using hrows row hrow
  · intro h
    apply Table.ext
    rw [rows_update, rows_update, List.map_inj_left]
    intro row hrow
    by_cases hp : p row = true
    · rw [if_pos hp, if_pos hp, h row hrow hp]
    · rw [if_neg hp, if_neg hp]

/-- An update changes nothing exactly if it rewrites every row to itself. -/
theorem update_eq_self_iff (table : Table α key) {p : α → Bool} {f : α → α}
    (hkey : ∀ row, key (f row) = key row) :
    table.update p f hkey = table ↔ ∀ row ∈ table.rows, p row = true → f row = row := by
  have hself : table.update p id (fun _ => rfl) = table := update_eq_self table _ fun _ _ _ => rfl
  have hiff := update_eq_update_iff table (p := p) (g := id) hkey fun _ => rfl
  rwa [hself] at hiff

/-- A selection that sees no updated row, before or after, is unaffected. -/
theorem filter_rows_update (table : Table α key) {p q : α → Bool} {f : α → α}
    (hkey : ∀ row, key (f row) = key row) (hbefore : ∀ row, p row = true → q row = false)
    (hafter : ∀ row, p row = true → q (f row) = false) :
    (table.update p f hkey).rows.filter q = table.rows.filter q := by
  rw [rows_update]
  induction table.rows with
  | nil => rfl
  | cons row rest ih =>
      by_cases hp : p row = true
      · simp [hp, hbefore row hp, hafter row hp, ih]
      · simp [hp, List.filter_cons, ih]

/-! ## Lookup -/

variable [DecidableEq κ]

/-- The row with the given key. -/
def find? (table : Table α key) (k : κ) : Option α :=
  table.rows.find? fun row => key row = k

/-- Whether a key is taken. -/
def has (table : Table α key) (k : κ) : Bool :=
  table.rows.any fun row => key row = k

theorem find?_eq_some_iff {table : Table α key} {k : κ} {row : α} :
    table.find? k = some row ↔ row ∈ table.rows ∧ key row = k := by
  constructor
  · intro h
    exact ⟨List.mem_of_find?_eq_some h, by simpa using List.find?_some h⟩
  · rintro ⟨hmem, rfl⟩
    cases hfound : table.find? (key row) with
    | none =>
        have hall := List.find?_eq_none.mp hfound row hmem
        simp at hall
    | some other =>
        have hother := List.mem_of_find?_eq_some hfound
        have hkey : key other = key row := by simpa using List.find?_some hfound
        rw [table.eq_of_key_eq hother hmem hkey]

theorem sameRows_iff {first second : Table α key} :
    first.SameRows second ↔ ∀ k, first.find? k = second.find? k := by
  constructor
  · intro h k
    ext row
    rw [find?_eq_some_iff, find?_eq_some_iff, h row]
  · intro h row
    have hsame := h (key row)
    constructor
    · intro hrow
      rw [find?_eq_some_iff.mpr ⟨hrow, rfl⟩] at hsame
      exact (find?_eq_some_iff.mp hsame.symm).1
    · intro hrow
      rw [find?_eq_some_iff.mpr ⟨hrow, rfl⟩] at hsame
      exact (find?_eq_some_iff.mp hsame).1

theorem find?_eq_none_iff {table : Table α key} {k : κ} :
    table.find? k = none ↔ ∀ row ∈ table.rows, key row ≠ k := by
  simp [find?]

theorem find?_update (table : Table α key) {p : α → Bool} {f : α → α}
    (hkey : ∀ row, key (f row) = key row) (k : κ) :
    (table.update p f hkey).find? k =
      (table.find? k).map fun row => if p row then f row else row := by
  unfold find?
  rw [rows_update, List.find?_map]
  have hsame : ((fun row => decide (key row = k)) ∘ fun row => if p row then f row else row) =
      fun row => decide (key row = k) := by
    funext row
    by_cases hp : p row <;> simp [hp, hkey]
  rw [hsame]

theorem find?_keep (table : Table α key) (p : α → Bool) (k : κ) :
    (table.keep p).find? k = (table.find? k).filter p := by
  ext row
  rw [find?_eq_some_iff, Option.filter_eq_some_iff, find?_eq_some_iff, rows_keep, List.mem_filter]
  tauto

/-- An update changes nothing exactly if it rewrites every row to itself. -/
theorem update_sameRows_iff (table : Table α key) {p : α → Bool} {f : α → α}
    (hkey : ∀ row, key (f row) = key row) :
    (table.update p f hkey).SameRows table ↔ ∀ row ∈ table.rows, p row = true → f row = row := by
  rw [sameRows_iff]
  constructor
  · intro h row hrow hp
    have hsame := h (key row)
    rw [find?_update, find?_eq_some_iff.mpr ⟨hrow, rfl⟩] at hsame
    simpa [hp] using hsame
  · intro h k
    rw [update_eq_self table hkey h]

theorem has_iff {table : Table α key} {k : κ} :
    table.has k = true ↔ ∃ row ∈ table.rows, key row = k := by
  simp [has]

theorem has_of_find? {table : Table α key} {k : κ} {row : α} (h : table.find? k = some row) :
    table.has k = true :=
  has_iff.mpr ⟨row, find?_eq_some_iff.mp h⟩

theorem has_eq_false_iff {table : Table α key} {k : κ} :
    table.has k = false ↔ ∀ row ∈ table.rows, key row ≠ k := by
  simp [has]

/-- A key that is there has a row. -/
theorem exists_find?_of_has {table : Table α key} {k : κ} (h : table.has k = true) :
    ∃ row, table.find? k = some row := by
  obtain ⟨row, hrow, hkey⟩ := has_iff.mp h
  exact ⟨row, find?_eq_some_iff.mpr ⟨hrow, hkey⟩⟩

/-- A table is finite: among infinitely many keys some are free. -/
theorem exists_free {K : Type*} [Infinite K] (table : Table α key) {f : K → κ}
    (hf : Function.Injective f) : ∃ k, table.has (f k) = false := by
  obtain ⟨_, ⟨k, rfl⟩, hfree⟩ :=
    (Set.infinite_range_of_injective hf).exists_notMem_finset (table.rows.map key).toFinset
  refine ⟨k, has_eq_false_iff.mpr fun row hrow hkey => hfree ?_⟩
  rw [List.mem_toFinset, List.mem_map]
  exact ⟨row, hrow, hkey⟩

/-- The row with a key, and the others. -/
theorem perm_cons_keep {table : Table α key} {k : κ} {row : α} (h : table.find? k = some row) :
    table.rows.Perm (row :: (table.keep fun other => key other ≠ k).rows) := by
  rcases find?_eq_some_iff.mp h with ⟨hmem, rfl⟩
  rcases List.append_of_mem hmem with ⟨before, after, hrows⟩
  have hnodup := table.nodup
  rw [hrows, List.map_append, List.map_cons, List.nodup_middle, List.nodup_cons, ← List.map_append,
    List.mem_map] at hnodup
  have hothers : ∀ other ∈ before ++ after, decide (key other ≠ key row) = true := by
    intro other hother
    rw [decide_eq_true_iff]
    exact fun hkey => hnodup.1 ⟨other, hother, hkey⟩
  rw [List.forall_mem_append] at hothers
  rw [rows_keep, hrows, List.filter_append, List.filter_cons_of_neg (by simp),
    List.filter_eq_self.mpr hothers.1, List.filter_eq_self.mpr hothers.2]
  exact List.perm_middle

/-- The row with a key, rewritten, and the others. -/
theorem perm_update {table : Table α key} {k : κ} {row : α} (h : table.find? k = some row)
    {f : α → α} (hkey : ∀ row, key (f row) = key row) :
    (table.update (fun other => key other = k) f hkey).rows.Perm
      (f row :: (table.keep fun other => key other ≠ k).rows) := by
  have hmapped := (perm_cons_keep h).map fun other =>
    if decide (key other = k) then f other else other
  rw [List.map_cons, if_pos (by simpa using (find?_eq_some_iff.mp h).2)] at hmapped
  have hothers : ∀ other ∈ (table.keep fun other => key other ≠ k).rows,
      (if decide (key other = k) then f other else other) = id other := by
    intro other hother
    have hne : key other ≠ k := by simpa using (List.mem_filter.mp hother).2
    simp [hne]
  rwa [List.map_congr_left hothers, List.map_id] at hmapped

section Sorted

variable {β : Type*} {tag : β → κ} {g : α → List β}

/-- What is made of the row with a key is found by its tag. -/
theorem filter_flatMap (table : Table α key) (htag : ∀ row, ∀ b ∈ g row, tag b = key row) (k : κ) :
    (table.rows.flatMap g).filter (tag · = k) = (table.find? k).elim [] g := by
  have hnone : ∀ rows : List α, (∀ row ∈ rows, key row ≠ k) →
      (rows.flatMap g).filter (tag · = k) = [] := by
    intro rows hrows
    rw [List.filter_eq_nil_iff]
    intro b hb
    rcases List.mem_flatMap.mp hb with ⟨row, hrow, hbrow⟩
    rw [htag row b hbrow, decide_eq_true_iff]
    exact hrows row hrow
  cases hfound : table.find? k with
  | none => exact hnone _ (find?_eq_none_iff.mp hfound)
  | some row =>
      rcases find?_eq_some_iff.mp hfound with ⟨hmem, rfl⟩
      rcases List.append_of_mem hmem with ⟨before, after, hrows⟩
      have hnodup := table.nodup
      rw [hrows, List.map_append, List.map_cons, List.nodup_middle, List.nodup_cons,
        ← List.map_append, List.mem_map] at hnodup
      have hothers : ∀ other ∈ before ++ after, key other ≠ key row :=
        fun other hother hkey => hnodup.1 ⟨other, hother, hkey⟩
      rw [List.forall_mem_append] at hothers
      have hself : (g row).filter (tag · = key row) = g row := by
        rw [List.filter_eq_self]
        intro b hb
        rw [decide_eq_true_iff]
        exact htag row b hb
      rw [hrows, List.flatMap_append, List.flatMap_cons, List.filter_append, List.filter_append,
        hnone before hothers.1, hnone after hothers.2, hself, List.nil_append, List.append_nil]
      rfl

/-- What is made of the rows of a table, compared key by key. -/
theorem perm_flatMap_iff [DecidableEq β] (table : Table α key)
    (htag : ∀ row, ∀ b ∈ g row, tag b = key row) {bs : List β} :
    bs.Perm (table.rows.flatMap g) ↔
      ∀ k, (bs.filter (tag · = k)).Perm ((table.find? k).elim [] g) := by
  constructor
  · intro h k
    rw [← filter_flatMap table htag k]
    exact h.filter _
  · intro h
    rw [List.perm_iff_count]
    intro b
    have hsame := List.perm_iff_count.mp (h (tag b)) b
    rwa [← filter_flatMap table htag (tag b), List.count_filter (by simp),
      List.count_filter (by simp)] at hsame

end Sorted

/-! ## Inserting rows -/

/-- Append a row whose key is free. -/
def push (table : Table α key) (row : α) (hfree : table.has (key row) = false) :
    Table α key where
  rows := table.rows ++ [row]
  nodup := by
    rw [List.map_append, List.map_singleton, List.nodup_append]
    refine ⟨table.nodup, List.nodup_singleton _, ?_⟩
    intro k hk other hother
    obtain ⟨old, hold, rfl⟩ := List.mem_map.mp hk
    rw [List.mem_singleton.mp hother]
    exact has_eq_false_iff.mp hfree old hold

/-- `INSERT`: `none` when the key is taken. -/
def insert? (table : Table α key) (row : α) : Option (Table α key) :=
  if hfree : table.has (key row) = false then some (table.push row hfree) else none

/-- `INSERT OR IGNORE`, and `ON CONFLICT DO NOTHING`. -/
def insertOrIgnore (table : Table α key) (row : α) : Table α key :=
  (table.insert? row).getD table

/-- `INSERT … ON CONFLICT DO UPDATE`: append the row, or rewrite the one that
holds its key. -/
def upsert (table : Table α key) (row : α) (f : α → α)
    (hkey : ∀ row, key (f row) = key row) : Table α key :=
  (table.insert? row).getD (table.update (fun old => key old = key row) f hkey)

/-- `INSERT OR REPLACE`: the row that holds the key, if there is one, is deleted
first. -/
def replace (table : Table α key) (row : α) : Table α key :=
  (table.keep fun old => key old ≠ key row).push row (by simp [has])

theorem insert?_eq_some_iff {table table' : Table α key} {row : α} :
    table.insert? row = some table' ↔
      (∀ old ∈ table.rows, key old ≠ key row) ∧ table'.rows = table.rows ++ [row] := by
  unfold insert?
  split_ifs with hfree
  · simp only [Option.some.injEq, Table.ext_iff, push]
    constructor
    · intro h
      exact ⟨has_eq_false_iff.mp hfree, h.symm⟩
    · intro h
      exact h.2.symm
  · simp only [false_iff, not_and]
    intro hall
    exact absurd (has_eq_false_iff.mpr hall) hfree

theorem insert?_eq_none_iff {table : Table α key} {row : α} :
    table.insert? row = none ↔ ∃ old ∈ table.rows, key old = key row := by
  unfold insert?
  split_ifs with hfree
  · rw [has_eq_false_iff] at hfree
    simpa using hfree
  · rw [Bool.not_eq_false, has_iff] at hfree
    simpa using hfree

/-- A row whose key is free can be inserted. -/
theorem insert?_of_free {table : Table α key} {row : α} (hfree : table.has (key row) = false) :
    ∃ table', table.insert? row = some table' ∧ table'.rows = table.rows ++ [row] := by
  refine ⟨table.push row hfree, ?_, rfl⟩
  rw [insert?, dif_pos hfree]

theorem has_of_append {table table' : Table α key} {row : α}
    (hrows : table'.rows = table.rows ++ [row]) (k : κ) :
    table'.has k = true ↔ table.has k = true ∨ key row = k := by
  rw [has_iff, has_iff, hrows]
  simp

theorem find?_of_append {table table' : Table α key} {row : α}
    (hrows : table'.rows = table.rows ++ [row]) (k : κ) :
    table'.find? k = if k = key row then some row else table.find? k := by
  split_ifs with hk
  · rw [find?_eq_some_iff, hrows]
    exact ⟨by simp, hk.symm⟩
  · unfold find?
    rw [hrows, List.find?_append]
    have hnone : [row].find? (fun row => decide (key row = k)) = none := by
      simpa using fun h => hk h.symm
    rw [hnone, Option.or_none]

/-- A row that is there is found among more rows as well. -/
theorem find?_of_append_of_mem {table table' : Table α key} {row found : α}
    (hrows : table'.rows = table.rows ++ [row]) {k : κ} (h : found ∈ table.find? k) :
    found ∈ table'.find? k := by
  rcases find?_eq_some_iff.mp h with ⟨hmem, hkey⟩
  refine find?_eq_some_iff.mpr ⟨?_, hkey⟩
  rw [hrows]
  exact List.mem_append_left _ hmem

theorem mem_replace {table : Table α key} {row other : α} :
    other ∈ (table.replace row).rows ↔ (other ∈ table.rows ∧ key other ≠ key row) ∨
    other = row := by
  simp [replace, push]

theorem find?_replace (table : Table α key) (row : α) (k : κ) :
    (table.replace row).find? k = if k = key row then some row else table.find? k := by
  ext other
  rw [find?_eq_some_iff, mem_replace]
  split_ifs with hk
  · rw [hk, Option.some.injEq]
    constructor
    · rintro ⟨⟨-, hne⟩ | rfl, hkey⟩
      · exact absurd hkey hne
      · rfl
    · rintro rfl
      exact ⟨.inr rfl, rfl⟩
  · rw [find?_eq_some_iff]
    constructor
    · rintro ⟨⟨hmem, -⟩ | rfl, hkey⟩
      · exact ⟨hmem, hkey⟩
      · exact absurd hkey.symm hk
    · rintro ⟨hmem, hkey⟩
      exact ⟨.inl ⟨hmem, fun h => hk (hkey.symm.trans h)⟩, hkey⟩

theorem find?_insertOrIgnore (table : Table α key) (row : α) (k : κ) :
    (table.insertOrIgnore row).find? k =
      if k = key row then some ((table.find? k).getD row) else table.find? k := by
  unfold insertOrIgnore
  cases hinsert : table.insert? row with
  | none =>
      obtain ⟨old, hold, hkey⟩ := insert?_eq_none_iff.mp hinsert
      rw [Option.getD_none]
      split_ifs with hk
      · rw [find?_eq_some_iff.mpr ⟨hold, hkey.trans hk.symm⟩, Option.getD_some]
      · rfl
  | some table' =>
      obtain ⟨hfree, hrows⟩ := insert?_eq_some_iff.mp hinsert
      rw [Option.getD_some, find?_of_append hrows]
      split_ifs with hk
      · rw [hk, find?_eq_none_iff.mpr hfree, Option.getD_none]
      · rfl

theorem find?_upsert (table : Table α key) (row : α) {f : α → α}
    (hkey : ∀ row, key (f row) = key row) (k : κ) :
    (table.upsert row f hkey).find? k =
      if k = key row then some (((table.find? k).map f).getD row) else table.find? k := by
  unfold upsert
  cases hinsert : table.insert? row with
  | none =>
      obtain ⟨old, hold, holdKey⟩ := insert?_eq_none_iff.mp hinsert
      rw [Option.getD_none, find?_update]
      split_ifs with hk
      · rw [find?_eq_some_iff.mpr ⟨hold, holdKey.trans hk.symm⟩]
        simp [holdKey]
      · cases hfind : table.find? k with
        | none => rfl
        | some found =>
            have hne : key found ≠ key row := by
              rw [(find?_eq_some_iff.mp hfind).2]
              exact hk
            simp [hne]
  | some table' =>
      obtain ⟨hfree, hrows⟩ := insert?_eq_some_iff.mp hinsert
      rw [Option.getD_some, find?_of_append hrows]
      split_ifs with hk
      · rw [hk, find?_eq_none_iff.mpr hfree]
        rfl
      · rfl

/-- Writing a row changes nothing exactly if the row is there and is rewritten
to itself. -/
theorem upsert_sameRows_iff (table : Table α key) (row : α) {f : α → α}
    (hkey : ∀ row, key (f row) = key row) :
    (table.upsert row f hkey).SameRows table ↔
      ∃ old, table.find? (key row) = some old ∧ f old = old := by
  rw [sameRows_iff]
  constructor
  · intro h
    have hsame := h (key row)
    rw [find?_upsert, if_pos rfl] at hsame
    cases hfind : table.find? (key row) with
    | none => simp [hfind] at hsame
    | some old =>
        rw [hfind] at hsame
        exact ⟨old, rfl, by simpa using hsame⟩
  · rintro ⟨old, hold, hsame⟩ k
    rw [find?_upsert]
    split_ifs with hk
    · rw [hk, hold, Option.map_some, Option.getD_some, hsame]
    · rfl

/-- Where the rows of a table come from, once a row has been written. -/
theorem mem_upsert {table : Table α key} {row other : α} {f : α → α}
    {hkey : ∀ row, key (f row) = key row} (h : other ∈ (table.upsert row f hkey).rows) :
    other ∈ table.rows ∨ other = row ∨ ∃ old ∈ table.rows, key old = key row ∧ other = f old := by
  unfold upsert at h
  cases hinsert : table.insert? row with
  | none =>
      rw [hinsert, Option.getD_none, rows_update, List.mem_map] at h
      obtain ⟨old, hold, rfl⟩ := h
      by_cases hsame : key old = key row
      · exact .inr (.inr ⟨old, hold, hsame, by simp [hsame]⟩)
      · exact .inl (by simpa [hsame] using hold)
  | some table' =>
      rw [hinsert, Option.getD_some, (insert?_eq_some_iff.mp hinsert).2, List.mem_append,
        List.mem_singleton] at h
      exact h.imp_right .inl

theorem mem_insertOrIgnore {table : Table α key} {row other : α} :
    other ∈ (table.insertOrIgnore row).rows ↔
      other ∈ table.rows ∨ ((∀ old ∈ table.rows, key old ≠ key row) ∧ other = row) := by
  unfold insertOrIgnore
  cases h : table.insert? row with
  | none =>
      obtain ⟨old, hold, hkey⟩ := insert?_eq_none_iff.mp h
      simp only [Option.getD_none]
      constructor
      · exact .inl
      · rintro (hmem | ⟨hall, -⟩)
        · exact hmem
        · exact absurd hkey (hall old hold)
  | some table' =>
      obtain ⟨hall, hrows⟩ := insert?_eq_some_iff.mp h
      rw [Option.getD_some, hrows, List.mem_append, List.mem_singleton, and_iff_right hall]

theorem has_insertOrIgnore (table : Table α key) (row : α) (k : κ) :
    (table.insertOrIgnore row).has k = true ↔ table.has k = true ∨ key row = k := by
  unfold insertOrIgnore
  cases h : table.insert? row with
  | none =>
      obtain ⟨old, hold, hkey⟩ := insert?_eq_none_iff.mp h
      rw [Option.getD_none, or_iff_left_of_imp]
      rintro rfl
      exact has_iff.mpr ⟨old, hold, hkey⟩
  | some table' => exact has_of_append (insert?_eq_some_iff.mp h).2 k

end Table

end Voxply.Math
