/-
# Counters that are kept by separate statements

A counter is meant to be equal to some other quantity of the state, and programs
change the two in separate statements: what one statement of a job adds to the
quantity, the next statement of the same job is to add to the counter.  Between the
two the job is in debt.

If every statement pays for the one before it, the counter and the debts of all jobs
together make up the quantity, in every interleaving.
-/

import Mathlib.Algebra.BigOperators.Group.Finset.Basic
import Mathlib.Algebra.Group.Int.Defs
import Voxply.Math.Schedule

namespace Voxply.Math

universe u x

variable {R : Type x} {S : Type u} {owed paid : S → ℤ}

/-- What the last statement has added to the quantity. -/
def debt (owed : S → ℤ) (past : List (Sent S)) : ℤ :=
  past.getLast?.elim 0 fun last => owed last.after - owed last.before

@[simp]
theorem debt_nil : debt owed [] = 0 := rfl

@[simp]
theorem debt_snoc (past : List (Sent S)) (sent : Sent S) :
    debt owed (past ++ [sent]) = owed sent.after - owed sent.before := by
  simp [debt]

/-- Every statement pays for the one before it. -/
def Pays (owed paid : S → ℤ) (history : List (Event R S)) : Prop :=
  ∀ pre e post, history = pre ++ e :: post →
    paid e.after - paid e.before = debt owed (sentBy e.job pre)

namespace Interleaving

variable {good : R → List (Sent S) → Sent S → Prop} {s t : S} {history : List (Event R S)}

/-- The counter and the debts make up the quantity, up to what they differed by at
first. -/
theorem balance (h : Interleaving good s history t) (hpays : Pays owed paid history) {n : ℕ}
    (hjobs : ∀ e ∈ history, e.job < n) :
    paid t + ∑ job ∈ Finset.range n, debt owed (sentBy job history) - owed t = paid s - owed s := by
  induction h with
  | idle => simp
  | @exec history t last hrun hbefore hown hgood ih =>
      subst hbefore
      have hpays' : Pays owed paid history := by
        rintro pre e post rfl
        exact hpays pre e (post ++ [last]) (by simp)
      have hsum := ih hpays' fun e he => hjobs e (List.mem_append_left _ he)
      have hlast := hpays history last [] rfl
      -- Only the debt of the job that has sent something is another one.
      have hmem : last.job ∈ Finset.range n := Finset.mem_range.mpr (hjobs last (by simp))
      have hothers : ∑ job ∈ (Finset.range n).erase last.job,
          debt owed (sentBy job (history ++ [last])) =
          ∑ job ∈ (Finset.range n).erase last.job, debt owed (sentBy job history) := by
        apply Finset.sum_congr rfl
        intro job hjob
        rw [sentBy_snoc_of_ne (Finset.ne_of_mem_erase hjob).symm]
      rw [← Finset.add_sum_erase _ _ hmem] at hsum ⊢
      rw [hothers, sentBy_snoc_self, debt_snoc]
      show paid last.after + (owed last.after - owed last.before + _) - _ = _
      omega

/-- Once nobody is in debt, the counter is right. -/
theorem settled (h : Interleaving good s history t) (hpays : Pays owed paid history) {n : ℕ}
    (hjobs : ∀ e ∈ history, e.job < n) (hnone : ∀ job, debt owed (sentBy job history) = 0)
    (hstart : paid s = owed s) : paid t = owed t := by
  have hbalance := h.balance hpays hjobs
  rw [Finset.sum_eq_zero fun job _ => hnone job] at hbalance
  omega

end Interleaving

end Voxply.Math
