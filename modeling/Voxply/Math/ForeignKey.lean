/-
# Foreign keys

A column of a table refers to another table if every value in it, other than `NULL`, is the
key of a row there.  Deleting rows of the table that refers breaks nothing; deleting rows of
the other one does unless nothing referred to them, or the rows that did are deleted or
cleared along with them.
-/

import Voxply.Math.Table

namespace Voxply.Math

universe u v w

namespace Table

variable {α β : Type u} {κ : Type v} {κ' : Type w} {key : α → κ} {key' : β → κ'} [DecidableEq κ']

/-- Every row refers to a row of the other table, if it refers to any. -/
def Refers (table : Table α key) (column : α → Option κ') (other : Table β key') : Prop :=
  ∀ row ∈ table.rows, ∀ k ∈ column row, other.has k = true

instance decidableRefers (table : Table α key) (column : α → Option κ') (other : Table β key') :
    Decidable (table.Refers column other) :=
  inferInstanceAs (Decidable (∀ row ∈ table.rows, ∀ k ∈ column row, other.has k = true))

/-- `ON DELETE CASCADE`: the rows go whose reference is gone. -/
def cascade (table : Table α key) (column : α → Option κ') (other : Table β key') : Table α key :=
  table.keep fun row => (column row).all other.has

/-- `ON DELETE SET NULL`: the references that are gone are cleared. -/
def clear (table : Table α key) (column : α → Option κ') (reset : α → α)
    (hkey : ∀ row, key (reset row) = key row) (other : Table β key') : Table α key :=
  table.update (fun row => !(column row).all other.has) reset hkey

variable {table : Table α key} {column : α → Option κ'} {other other' : Table β key'}

theorem Refers.keep (h : table.Refers column other) (p : α → Bool) :
    (table.keep p).Refers column other :=
  fun row hrow => h row (List.mem_filter.mp hrow).1

/-- Only the keys of the other table count. -/
theorem Refers.mono (h : table.Refers column other)
    (hkeys : ∀ k, other.has k = true → other'.has k = true) : table.Refers column other' :=
  fun row hrow k hk => hkeys k (h row hrow k hk)

theorem refers_cascade (table : Table α key) (column : α → Option κ') (other : Table β key') :
    (table.cascade column other).Refers column other := by
  intro row hrow k hk
  have hall := (List.mem_filter.mp hrow).2
  rw [Option.mem_def.mp hk] at hall
  exact hall

theorem mem_cascade {row : α} :
    row ∈ (table.cascade column other).rows ↔
      row ∈ table.rows ∧ ∀ k ∈ column row, other.has k = true := by
  rw [cascade, rows_keep, List.mem_filter]
  apply and_congr_right
  intro _
  cases column row <;> simp

omit [DecidableEq κ'] in
/-- Rows that share the first part of their key differ in the second. -/
theorem nodup_second {key : α → κ × κ'} [DecidableEq κ] (table : Table α key) (k : κ) :
    ((table.rows.filter fun row => (key row).1 = k).map fun row => (key row).2).Nodup := by
  have hkeys : ((table.rows.filter fun row => (key row).1 = k).map key).Nodup :=
    table.nodup.sublist (List.filter_sublist.map key)
  apply List.Nodup.of_map (Prod.mk k)
  rw [List.map_map]
  convert hkeys using 1
  apply List.map_congr_left
  intro row hrow
  have hfirst : (key row).1 = k := of_decide_eq_true (List.mem_filter.mp hrow).2
  exact Prod.ext hfirst.symm rfl

/-- A row can go exactly if none refers to it. -/
theorem refers_without_iff (h : table.Refers column other) (k : κ') :
    table.Refers column (other.keep fun row => key' row ≠ k) ↔
      ∀ row ∈ table.rows, column row ≠ some k := by
  constructor
  · intro hwithout row hrow hcolumn
    obtain ⟨target, htarget, hkey⟩ := has_iff.mp (hwithout row hrow k hcolumn)
    exact of_decide_eq_true (List.mem_filter.mp htarget).2 hkey
  · intro hnone row hrow k' hk'
    obtain ⟨target, htarget, hkey⟩ := has_iff.mp (h row hrow k' hk')
    refine has_iff.mpr ⟨target, List.mem_filter.mpr ⟨htarget, decide_eq_true ?_⟩, hkey⟩
    rw [hkey]
    rintro rfl
    exact hnone row hrow hk'

/-- Cleared references do not dangle. -/
theorem refers_clear (table : Table α key) {column : α → Option κ'} {reset : α → α}
    (hkey : ∀ row, key (reset row) = key row) (hreset : ∀ row, column (reset row) = none)
    (other : Table β key') : (table.clear column reset hkey other).Refers column other := by
  intro row hrow k hk
  obtain ⟨old, -, rfl⟩ := List.mem_map.mp hrow
  cases hall : (column old).all other.has with
  | true =>
      simp only [hall, Bool.not_true, Bool.false_eq_true, if_false] at hk
      rw [Option.mem_def.mp hk] at hall
      exact hall
  | false =>
      simp only [hall, Bool.not_false, if_true, hreset] at hk
      cases hk

/-- Clearing references changes no key. -/
theorem has_clear [DecidableEq κ] {reset : α → α}
    (hkey : ∀ row, key (reset row) = key row) (k : κ) :
    (table.clear column reset hkey other).has k = table.has k := by
  rw [Bool.eq_iff_iff, has_iff, has_iff]
  constructor
  · rintro ⟨row, hrow, rfl⟩
    obtain ⟨old, hold, rfl⟩ := List.mem_map.mp hrow
    refine ⟨old, hold, ?_⟩
    split_ifs
    · exact (hkey old).symm
    · rfl
  · rintro ⟨old, hold, rfl⟩
    refine ⟨_, List.mem_map_of_mem hold, ?_⟩
    split_ifs
    · exact hkey old
    · rfl

/-- Other references are not affected. -/
theorem Refers.clear {γ : Type u} {κ'' : Type*} {key'' : γ → κ''} [DecidableEq κ'']
    {column' : α → Option κ''} {third : Table γ key''} {reset : α → α}
    (h : table.Refers column' third) (hkey : ∀ row, key (reset row) = key row)
    (hsame : ∀ row, column' (reset row) = column' row) :
    (table.clear column reset hkey other).Refers column' third := by
  intro row hrow k hk
  obtain ⟨old, hold, rfl⟩ := List.mem_map.mp hrow
  apply h old hold k
  split_ifs at hk
  · rwa [hsame] at hk
  · exact hk

end Table

end Voxply.Math
