/-
# Joins and groups

`LEFT JOIN` pairs every row with its matches, or with nothing if it has none.  `GROUP BY`
with `ORDER BY` of the same column collects the rows of each key, in the order of the
keys.  `COUNT(DISTINCT …)` counts values and not rows, so a further join, which may
repeat rows but loses none, does not change it.
-/

import Mathlib.Data.List.Dedup
import Mathlib.Data.List.Sort
import Mathlib.Tactic.Common

namespace Voxply.Math

universe u v w

variable {α : Type u} {β : Type v} {κ : Type w}

/-! ## Left joins -/

/-- The matches of a row. -/
def matching (right : List β) (on : α → β → Bool) (a : α) : List (α × Option β) :=
  if (right.filter (on a)).isEmpty then [(a, none)]
  else (right.filter (on a)).map fun b => (a, some b)

/-- `left LEFT JOIN right ON on`. -/
def leftJoin (left : List α) (right : List β) (on : α → β → Bool) : List (α × Option β) :=
  left.flatMap (matching right on)

theorem mem_matching {right : List β} {on : α → β → Bool} {a : α} {row : α × Option β} :
    row ∈ matching right on a ↔ row.1 = a ∧
      ((row.2 = none ∧ right.filter (on a) = []) ∨ ∃ b ∈ right, on a b = true ∧
        row.2 = some b) := by
  obtain ⟨a', b'⟩ := row
  unfold matching
  by_cases hempty : right.filter (on a) = []
  · have hnone : ∀ b ∈ right, ¬ on a b = true := List.filter_eq_nil_iff.mp hempty
    simp only [hempty, List.isEmpty_nil, if_true, List.mem_singleton, Prod.mk.injEq, and_true]
    constructor
    · rintro ⟨rfl, rfl⟩
      exact ⟨rfl, .inl rfl⟩
    · rintro ⟨rfl, rfl | ⟨b, hb, hon, -⟩⟩
      · exact ⟨rfl, rfl⟩
      · exact absurd hon (hnone b hb)
  · simp only [List.isEmpty_iff, hempty, if_false, List.mem_map, List.mem_filter, Prod.mk.injEq,
      and_false, false_or]
    constructor
    · rintro ⟨b, ⟨hb, hon⟩, rfl, rfl⟩
      exact ⟨rfl, b, hb, hon, rfl⟩
    · rintro ⟨rfl, b, hb, hon, rfl⟩
      exact ⟨b, ⟨hb, hon⟩, rfl, rfl⟩

/-- A join loses no row and adds none. -/
theorem exists_mem_leftJoin {left : List α} {right : List β} {on : α → β → Bool} {a : α} :
    (∃ b, (a, b) ∈ leftJoin left right on) ↔ a ∈ left := by
  simp only [leftJoin, List.mem_flatMap, mem_matching]
  constructor
  · rintro ⟨b, a', ha', rfl, -⟩
    exact ha'
  · intro ha
    by_cases hempty : right.filter (on a) = []
    · exact ⟨none, a, ha, rfl, .inl ⟨rfl, hempty⟩⟩
    · obtain ⟨b, hb⟩ := List.exists_mem_of_ne_nil _ hempty
      obtain ⟨hmem, hon⟩ := List.mem_filter.mp hb
      exact ⟨some b, a, ha, rfl, .inr ⟨b, hmem, hon, rfl⟩⟩

/-- What a row is joined with. -/
theorem mem_leftJoin_some {left : List α} {right : List β} {on : α → β → Bool} {a : α} {b : β} :
    (a, some b) ∈ leftJoin left right on ↔ a ∈ left ∧ b ∈ right ∧ on a b = true := by
  simp only [leftJoin, List.mem_flatMap, mem_matching]
  constructor
  · rintro ⟨a', ha', rfl, ⟨hnone, -⟩ | ⟨b', hb', hon, hsome⟩⟩
    · cases hnone
    · cases hsome
      exact ⟨ha', hb', hon⟩
  · rintro ⟨ha, hb, hon⟩
    exact ⟨a, ha, rfl, .inr ⟨b, hb, hon, rfl⟩⟩

/-! ## Groups -/

variable [DecidableEq κ]

/-- The rows of each key, in the order of the keys. -/
def groups [LE κ] [DecidableRel (α := κ) (· ≤ ·)] (key : α → κ) (rows : List α) : List (List α) :=
  ((rows.map key).dedup.insertionSort (· ≤ ·)).map fun k => rows.filter (key · = k)

/-- `COUNT(DISTINCT …)`. -/
def countDistinct (values : List (Option κ)) : ℕ :=
  (values.filterMap id).dedup.length

/-- It counts the values that there are. -/
theorem countDistinct_eq {values : List (Option κ)} {distinct : List κ} (hnodup : distinct.Nodup)
    (h : ∀ k, some k ∈ values ↔ k ∈ distinct) : countDistinct values = distinct.length := by
  apply List.Perm.length_eq
  rw [List.perm_ext_iff_of_nodup (List.nodup_dedup _) hnodup]
  intro k
  rw [List.mem_dedup, List.mem_filterMap, ← h k]
  simp

end Voxply.Math
