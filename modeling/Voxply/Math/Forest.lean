/-
# Forests given by parent links

A partial map from nodes to parents describes a forest as long as climbing it
from any node ends at a root.  `climb` follows the links a number of times,
`HasDepth` counts the proper ancestors of a node and `Rooted` says that there
are finitely many of them.  The rules below say what becomes of all three when
the link of one node is replaced, which is how nodes are added, moved and
removed.
-/

import Mathlib.Data.Option.Basic
import Mathlib.Logic.Function.Basic
import Mathlib.Tactic.Common

namespace Voxply.Math

universe u

variable {α : Type u} (parent : α → Option α)

/-- The ancestor the given number of levels up. -/
def climb : ℕ → α → Option α
  | 0, a => some a
  | n + 1, a => (parent a).bind (climb n)

/-- The node has exactly `n` proper ancestors, the last of which is a root. -/
def HasDepth (a : α) (n : ℕ) : Prop :=
  ∃ root, climb parent n a = some root ∧ parent root = none

/-- Following the links from the node reaches a root. -/
def Rooted (a : α) : Prop :=
  ∃ n, HasDepth parent a n

variable {parent} {a b c p : α} {k m n : ℕ}

/-! ## Climbing -/

theorem climb_succ_of_parent (h : parent a = some b) :
    climb parent (n + 1) a = climb parent n b := by
  rw [climb, h, Option.bind_some]

theorem climb_add (parent : α → Option α) (m n : ℕ) (a : α) :
    climb parent (m + n) a = (climb parent m a).bind (climb parent n) := by
  induction m generalizing a with
  | zero => rw [Nat.zero_add, climb, Option.bind_some]
  | succ m ih =>
      rw [Nat.succ_add_eq_add_succ, Nat.add_succ, climb, climb, Option.bind_assoc]
      exact Option.bind_congr fun b _ => ih b

theorem climb_add_of_climb (h : climb parent k a = some b) (n : ℕ) :
    climb parent (k + n) a = climb parent n b := by
  rw [climb_add, h, Option.bind_some]

/-- A node that is reached by climbing at least once is somebody's parent. -/
theorem exists_parent_of_climb (h : climb parent (n + 1) a = some b) :
    ∃ child, parent child = some b := by
  rw [climb_add parent n 1] at h
  cases hn : climb parent n a with
  | none =>
      rw [hn] at h
      cases h
  | some child =>
      rw [hn, Option.bind_some, climb, Option.bind_eq_some_iff] at h
      obtain ⟨b', hparent, hb⟩ := h
      cases hb
      exact ⟨child, hparent⟩

/-- Nothing leads to a node without children. -/
theorem climb_ne_of_childless (hchildless : ∀ child, parent child ≠ some b) (hne : a ≠ b) (k : ℕ) :
    climb parent k a ≠ some b := by
  intro hclimb
  cases k with
  | zero => exact hne (Option.some.inj hclimb)
  | succ k =>
      obtain ⟨child, hchild⟩ := exists_parent_of_climb hclimb
      exact hchildless child hchild

/-! ## Depth -/

theorem hasDepth_zero_iff : HasDepth parent a 0 ↔ parent a = none := by
  simp [HasDepth, climb]

/-- Depths add up along a climb. -/
theorem hasDepth_add_iff (h : climb parent k a = some b) :
    HasDepth parent a (k + n) ↔ HasDepth parent b n := by
  unfold HasDepth
  rw [climb_add_of_climb h]

theorem hasDepth_succ_iff (h : parent a = some b) :
    HasDepth parent a (n + 1) ↔ HasDepth parent b n := by
  unfold HasDepth
  rw [climb_succ_of_parent h]

/-- Nothing is above the root that ends a climb. -/
theorem HasDepth.le_of_climb (h : HasDepth parent a n) (hclimb : climb parent k a = some b) :
    k ≤ n := by
  by_contra hlt
  obtain ⟨root, hroot, hnone⟩ := h
  obtain ⟨extra, rfl⟩ := Nat.exists_eq_add_of_lt (Nat.lt_of_not_le hlt)
  rw [Nat.add_assoc, climb_add_of_climb hroot, climb, hnone] at hclimb
  cases hclimb

theorem HasDepth.unique (hm : HasDepth parent a m) (hn : HasDepth parent a n) : m = n := by
  obtain ⟨top, htop, -⟩ := id hm
  obtain ⟨top', htop', -⟩ := id hn
  exact Nat.le_antisymm (hn.le_of_climb htop) (hm.le_of_climb htop')

/-- The depth of an ancestor of a node of known depth. -/
theorem HasDepth.of_climb (h : HasDepth parent a n) (hclimb : climb parent k a = some b) :
    HasDepth parent b (n - k) := by
  rw [← hasDepth_add_iff hclimb, Nat.add_sub_cancel' (h.le_of_climb hclimb)]
  exact h

/-- A node is on the way up from another at one height only. -/
theorem HasDepth.climb_unique (h : HasDepth parent a n) (hk : climb parent k a = some b)
    (hm : climb parent m a = some b) : k = m := by
  have hsame := (h.of_climb hk).unique (h.of_climb hm)
  have := h.le_of_climb hk
  have := h.le_of_climb hm
  omega

/-- Nodes that only lead to each other lead to no root. -/
theorem not_rooted_of_closed {nodes : List α}
    (hclosed : ∀ a ∈ nodes, ∃ b ∈ nodes, parent a = some b) (ha : a ∈ nodes) :
    ¬ Rooted parent a := by
  rintro ⟨n, hn⟩
  induction n generalizing a with
  | zero =>
      obtain ⟨b, -, hb⟩ := hclosed a ha
      rw [hasDepth_zero_iff.mp hn] at hb
      cases hb
  | succ n ih =>
      obtain ⟨b, hmem, hb⟩ := hclosed a ha
      exact ih hmem ((hasDepth_succ_iff hb).mp hn)

/-! ## Replacing one link -/

variable [DecidableEq α] {link : Option α}

/-- A climb that does not leave from the changed node is the same as before. -/
theorem climb_update (havoid : ∀ k < n, climb parent k a ≠ some c) :
    climb (Function.update parent c link) n a = climb parent n a := by
  induction n generalizing a with
  | zero => rfl
  | succ n ih =>
      have hne : a ≠ c := fun h => havoid 0 (Nat.zero_lt_succ n) (by rw [climb, h])
      rw [climb, climb, Function.update_of_ne hne]
      cases hparent : parent a with
      | none => rfl
      | some b =>
          rw [Option.bind_some, Option.bind_some]
          apply ih
          intro k hk
          rw [← climb_succ_of_parent hparent]
          exact havoid (k + 1) (Nat.succ_lt_succ hk)

/-- Nodes that are not below the changed one keep their depth. -/
theorem HasDepth.update (h : HasDepth parent a n) (havoid : ∀ k, climb parent k a ≠ some c) :
    HasDepth (Function.update parent c link) a n := by
  obtain ⟨root, hroot, hnone⟩ := h
  have hne : root ≠ c := fun heq => havoid n (heq ▸ hroot)
  refine ⟨root, ?_, ?_⟩
  · rw [climb_update fun k _ => havoid k]
    exact hroot
  · rw [Function.update_of_ne hne]
    exact hnone

/-- Nodes below the changed one reach it as before. -/
theorem HasDepth.climb_update (h : HasDepth parent a n) (hbelow : climb parent k a = some c) :
    climb (Function.update parent c link) k a = some c := by
  rw [Math.climb_update, hbelow]
  intro j hj heq
  exact absurd (h.climb_unique heq hbelow) (Nat.ne_of_lt hj)

/-- Nodes below one that has become a root are as deep as they are far below. -/
theorem HasDepth.update_root (h : HasDepth parent a n) (hbelow : climb parent k a = some c) :
    HasDepth (Function.update parent c none) a k := by
  rw [← Nat.add_zero k, hasDepth_add_iff (h.climb_update hbelow), hasDepth_zero_iff,
    Function.update_self]

/-- Nodes below one that has been moved go with it. -/
theorem HasDepth.update_move (h : HasDepth parent a n) (hbelow : climb parent k a = some c)
    (hp : HasDepth parent p m) (havoid : ∀ k, climb parent k p ≠ some c) :
    HasDepth (Function.update parent c (some p)) a (k + (m + 1)) := by
  rw [hasDepth_add_iff (h.climb_update hbelow), hasDepth_succ_iff (Function.update_self ..)]
  exact hp.update havoid

/-- Moving a node to the top keeps a forest. -/
theorem Rooted.update_root (h : Rooted parent a) : Rooted (Function.update parent c none) a := by
  obtain ⟨n, hn⟩ := h
  by_cases hbelow : ∃ k, climb parent k a = some c
  · obtain ⟨k, hk⟩ := hbelow
    exact ⟨k, hn.update_root hk⟩
  · exact ⟨n, hn.update (not_exists.mp hbelow)⟩

/-- Moving a node under one that is not below it keeps a forest. -/
theorem Rooted.update_move (h : Rooted parent a) (hp : Rooted parent p)
    (havoid : ∀ k, climb parent k p ≠ some c) :
    Rooted (Function.update parent c (some p)) a := by
  obtain ⟨n, hn⟩ := h
  obtain ⟨m, hm⟩ := hp
  by_cases hbelow : ∃ k, climb parent k a = some c
  · obtain ⟨k, hk⟩ := hbelow
    exact ⟨k + (m + 1), hn.update_move hk hm havoid⟩
  · exact ⟨n, hn.update (not_exists.mp hbelow)⟩

end Voxply.Math
