/-
# Farms in the directory

The seed keeps a row for every farm that is listed.  How full a farm is comes from two numbers
that the farm reports itself, and is computed when the farm registers and again whenever it is
revalidated.  The numbers are multiplied before they are divided, so a count that is very large
overflows, and one that is negative gives a negative share.
-/

import Voxply.Math.Table
import Mathlib.Algebra.Group.Int.Defs

namespace Voxply.Seed

open Voxply.Math

/-! ## Rows -/

/-- A row of `registered_farms`. -/
structure FarmRow where
  farmUrl : String
  farmPubkey : String
  name : String
  description : Option String
  country : Option String
  region : Option String
  languages : String
  tags : String
  hubCount : Int64
  maxHubsTotal : Option Int64
  capacityPct : Option Int64
  geoUnverified : Int64
  lastVerifiedAt : Int64
  registeredAt : Int64
  deriving DecidableEq

structure SeedDb where
  registeredFarms : Table FarmRow FarmRow.farmUrl := ∅

/-! ## Capacity -/

/-- A product of `i64`, unless it overflows. -/
def mulI64 (a b : Int64) : Option Int64 :=
  if -2 ^ 63 ≤ a.toInt * b.toInt ∧ a.toInt * b.toInt < 2 ^ 63 then some (a * b) else none

def minI64 (a b : Int64) : Int64 := if a ≤ b then a else b

/-- `compute_capacity_pct`, unless it overflows. -/
def computeCapacityPct (hubCount : Int64) (maxHubsTotal : Option Int64) : Option (Option Int64) :=
  match maxHubsTotal with
  | none => some none
  | some cap =>
      if cap ≤ 0 then some none
      else do
        let scaled ← mulI64 hubCount 100
        pure (some (minI64 (scaled / cap) 100))

/-- The share that a registration stores for what the farm reports. -/
def registeredCapacity (hubCount maxHubsTotal : Option Int64) : Option (Option Int64) :=
  computeCapacityPct (hubCount.getD 0) maxHubsTotal

/-- The share that the revalidation stores for it. -/
def revalidatedCapacity (hubCount maxHubsTotal : Option Int64) : Option (Option Int64) :=
  match maxHubsTotal.filter fun v => v > 0 with
  | none => some none
  | some cap =>
      if cap ≤ 0 then some (some 0)
      else do
        let scaled ← mulI64 (hubCount.getD 0) 100
        pure (some (minI64 (scaled / cap) 100))

/-! ## What is to hold -/

/-- Both compute the same share without an overflow, none if there is no cap, between nothing and
everything otherwise, and more hubs never fill the farm less. -/
structure CapacityRight (hubCount : Int64) (maxHubsTotal : Option Int64) : Prop where
  same : registeredCapacity (some hubCount) maxHubsTotal =
    revalidatedCapacity (some hubCount) maxHubsTotal
  computed : (registeredCapacity (some hubCount) maxHubsTotal).isSome = true
  absent : ∀ share ∈ registeredCapacity (some hubCount) maxHubsTotal,
    (share = none ↔ ∀ cap ∈ maxHubsTotal, cap ≤ 0)
  within : ∀ share ∈ registeredCapacity (some hubCount) maxHubsTotal, ∀ pct ∈ share,
    0 ≤ pct ∧ pct ≤ 100
  monotone : ∀ fewer ≤ hubCount,
    ∀ share ∈ registeredCapacity (some fewer) maxHubsTotal, ∀ pct ∈ share,
    ∀ share' ∈ registeredCapacity (some hubCount) maxHubsTotal, ∀ pct' ∈ share', pct ≤ pct'

/-- A hundred times the count fits into an `i64`, and is more than what the cap below zero is. -/
def CountFits (hubCount : Int64) (maxHubsTotal : Option Int64) : Prop :=
  ∀ cap ∈ maxHubsTotal, 0 < cap →
    -cap.toInt < hubCount.toInt * 100 ∧ hubCount.toInt * 100 < 2 ^ 63

section Capacity

variable {hubCount cap : Int64} {maxHubsTotal : Option Int64}

theorem tdiv_nonneg_iff {x c : Int} (hc : 0 < c) : 0 ≤ x.tdiv c ↔ -c < x := by
  rcases Int.le_total 0 x with hx | hx
  · exact iff_of_true (Int.tdiv_nonneg hx hc.le) (by omega)
  · obtain ⟨n, rfl⟩ : ∃ n : Int, x = -n := ⟨-x, (Int.neg_neg x).symm⟩
    rw [Int.neg_tdiv, Int.tdiv_eq_ediv_of_nonneg (by omega)]
    have hlt := Int.ediv_lt_iff_lt_mul (a := n) (b := 1) hc
    omega

theorem tdiv_le_tdiv {x y c : Int} (hc : 0 < c) (h : x ≤ y) : x.tdiv c ≤ y.tdiv c := by
  rcases Int.le_total 0 x with hx | hx
  · rw [Int.tdiv_eq_ediv_of_nonneg hx, Int.tdiv_eq_ediv_of_nonneg (hx.trans h)]
    exact Int.ediv_le_ediv hc h
  · obtain ⟨n, rfl⟩ : ∃ n : Int, x = -n := ⟨-x, (Int.neg_neg x).symm⟩
    have hn : 0 ≤ n / c := Int.ediv_nonneg (by omega) hc.le
    rw [Int.neg_tdiv, Int.tdiv_eq_ediv_of_nonneg (by omega)]
    rcases Int.le_total 0 y with hy | hy
    · have hright := Int.tdiv_nonneg hy hc.le
      omega
    · obtain ⟨m, rfl⟩ : ∃ m : Int, y = -m := ⟨-y, (Int.neg_neg y).symm⟩
      rw [Int.neg_tdiv, Int.tdiv_eq_ediv_of_nonneg (by omega)]
      have hdiv : m / c ≤ n / c := Int.ediv_le_ediv hc (by omega)
      omega

theorem toInt_minI64 (a b : Int64) : (minI64 a b).toInt = min a.toInt b.toInt := by
  unfold minI64
  split_ifs with h
  · rw [min_eq_left (Int64.le_iff_toInt_le.mp h)]
  · rw [min_eq_right (Int64.lt_iff_toInt_lt.mp (Int64.not_le.mp h)).le]

/-- Both computations are the same. -/
theorem same_capacity (hubCount maxHubsTotal : Option Int64) :
    registeredCapacity hubCount maxHubsTotal = revalidatedCapacity hubCount maxHubsTotal := by
  unfold registeredCapacity revalidatedCapacity computeCapacityPct
  cases maxHubsTotal with
  | none => rfl
  | some cap =>
      by_cases hcap : cap ≤ 0
      · have hnot : ¬ cap > 0 := Int64.not_lt.mpr hcap
        rw [Option.filter_some, if_neg (by simpa using hnot)]
        exact if_pos hcap
      · have hpos : cap > 0 := Int64.not_le.mp hcap
        rw [Option.filter_some, if_pos (by simpa using hpos)]
        dsimp only
        rw [if_neg hcap, if_neg hcap]

theorem computeCapacityPct_of_nonpos (hcap : ∀ cap ∈ maxHubsTotal, cap ≤ 0) :
    computeCapacityPct hubCount maxHubsTotal = some none := by
  cases maxHubsTotal with
  | none => rfl
  | some cap => exact if_pos (hcap cap rfl)

/-- The share, as a number, when the product fits. -/
theorem computeCapacityPct_of_fits (hcap : 0 < cap)
    (hfits : -2 ^ 63 ≤ hubCount.toInt * 100 ∧ hubCount.toInt * 100 < 2 ^ 63) :
    ∃ pct, computeCapacityPct hubCount (some cap) = some (some pct) ∧
      pct.toInt = min ((hubCount.toInt * 100).tdiv cap.toInt) 100 := by
  have hmul : mulI64 hubCount 100 = some (hubCount * 100) := if_pos hfits
  refine ⟨minI64 (hubCount * 100 / cap) 100, ?_, ?_⟩
  · rw [computeCapacityPct, if_neg (Int64.not_le.mpr hcap), hmul]
    rfl
  · have hscaled : (hubCount * 100).toInt = hubCount.toInt * 100 := by
      rw [Int64.toInt_mul]
      apply Int.bmod_eq_of_le
      · exact hfits.1
      · exact hfits.2
    have hne : cap ≠ -1 := by
      rintro rfl
      exact absurd hcap (by decide)
    rw [toInt_minI64, Int64.toInt_div_of_ne_right _ _ hne, hscaled]
    rfl

theorem computeCapacityPct_of_overflow (hcap : 0 < cap)
    (hnot : ¬ (-2 ^ 63 ≤ hubCount.toInt * 100 ∧ hubCount.toInt * 100 < 2 ^ 63)) :
    computeCapacityPct hubCount (some cap) = none := by
  have hmul : mulI64 hubCount 100 = none := if_neg hnot
  rw [computeCapacityPct, if_neg (Int64.not_le.mpr hcap), hmul]
  rfl

/-- A share that is there is that of a product that fits. -/
theorem fits_of_mem (hcap : 0 < cap) {share : Option Int64}
    (h : share ∈ computeCapacityPct hubCount (some cap)) :
    -2 ^ 63 ≤ hubCount.toInt * 100 ∧ hubCount.toInt * 100 < 2 ^ 63 := by
  by_contra hnot
  rw [computeCapacityPct_of_overflow hcap hnot] at h
  cases h

/-- More hubs never fill a farm less. -/
theorem computeCapacityPct_mono {fewer : Int64} (hle : fewer ≤ hubCount)
    {share share' : Option Int64}
    {pct pct' : Int64} (hshare : share ∈ computeCapacityPct fewer maxHubsTotal) (hpct : pct ∈ share)
    (hshare' : share' ∈ computeCapacityPct hubCount maxHubsTotal) (hpct' : pct' ∈ share') :
    pct ≤ pct' := by
  by_cases hcap : ∀ cap ∈ maxHubsTotal, cap ≤ 0
  · rw [computeCapacityPct_of_nonpos hcap] at hshare
    cases hshare
    cases hpct
  · push Not at hcap
    obtain ⟨cap, hcap, hpos⟩ := hcap
    rw [Option.mem_def.mp hcap] at hshare hshare'
    have hpos := Int64.not_le.mp hpos
    obtain ⟨first, hfirst, hvalue⟩ := computeCapacityPct_of_fits hpos (fits_of_mem hpos hshare)
    obtain ⟨second, hsecond, hvalue'⟩ := computeCapacityPct_of_fits hpos (fits_of_mem hpos hshare')
    rw [hfirst] at hshare
    rw [hsecond] at hshare'
    cases hshare
    cases hshare'
    cases hpct
    cases hpct'
    rw [Int64.le_iff_toInt_le, hvalue, hvalue']
    have hcounts := Int64.le_iff_toInt_le.mp hle
    have hdiv := tdiv_le_tdiv (Int64.lt_iff_toInt_lt.mp hpos)
      (show fewer.toInt * 100 ≤ hubCount.toInt * 100 by omega)
    exact min_le_min_right 100 hdiv

/-- The share is computed as it should be exactly if a hundred times the count fits. -/
theorem capacityRight_iff (hubCount : Int64) (maxHubsTotal : Option Int64) :
    CapacityRight hubCount maxHubsTotal ↔ CountFits hubCount maxHubsTotal := by
  have hregistered : registeredCapacity (some hubCount) maxHubsTotal =
      computeCapacityPct hubCount maxHubsTotal := rfl
  have hmono : ∀ fewer ≤ hubCount,
      ∀ share ∈ registeredCapacity (some fewer) maxHubsTotal, ∀ pct ∈ share,
      ∀ share' ∈ registeredCapacity (some hubCount) maxHubsTotal, ∀ pct' ∈ share', pct ≤ pct' :=
    fun fewer hle share hshare pct hpct share' hshare' pct' hpct' =>
      computeCapacityPct_mono hle hshare hpct hshare' hpct'
  by_cases hcap : ∀ cap ∈ maxHubsTotal, cap ≤ 0
  · refine iff_of_true ?_ fun cap hmem hpos => absurd (hcap cap hmem) (Int64.not_le.mpr hpos)
    have hvalue : computeCapacityPct hubCount maxHubsTotal = some none :=
      computeCapacityPct_of_nonpos hcap
    refine ⟨same_capacity _ _, ?_, ?_, ?_, hmono⟩
    · rw [hregistered, hvalue]
      rfl
    · intro share hshare
      rw [hregistered, hvalue] at hshare
      cases hshare
      exact iff_of_true rfl hcap
    · intro share hshare pct hpct
      rw [hregistered, hvalue] at hshare
      cases hshare
      cases hpct
  · push Not at hcap
    obtain ⟨cap, hcap, hnot⟩ := hcap
    rw [Option.mem_def.mp hcap] at hregistered hmono ⊢
    have hpos := Int64.not_le.mp hnot
    have hposInt : 0 < cap.toInt := Int64.lt_iff_toInt_lt.mp hpos
    have hcapMax := cap.toInt_lt
    have hcond : CountFits hubCount (some cap) ↔
        -cap.toInt < hubCount.toInt * 100 ∧ hubCount.toInt * 100 < 2 ^ 63 :=
      ⟨fun h => h cap rfl hpos, fun h other hother _ => by
        cases hother
        exact h⟩
    rw [hcond]
    constructor
    · intro h
      have hcomputed := h.computed
      obtain ⟨share, hshare⟩ := Option.isSome_iff_exists.mp hcomputed
      have hfits := fits_of_mem hpos (hregistered ▸ hshare)
      obtain ⟨pct, hpct, hvalue⟩ := computeCapacityPct_of_fits hpos hfits
      have hwithin := (h.within (some pct) (hregistered.trans hpct) pct rfl).1
      have hnonneg : 0 ≤ pct.toInt := Int64.le_iff_toInt_le.mp hwithin
      rw [hvalue] at hnonneg
      exact ⟨(tdiv_nonneg_iff hposInt).mp (hnonneg.trans (min_le_left _ _)), hfits.2⟩
    · rintro ⟨hlow, hhigh⟩
      obtain ⟨pct, hpct, hvalue⟩ := computeCapacityPct_of_fits hpos ⟨by omega, hhigh⟩
      refine ⟨same_capacity _ _, ?_, ?_, ?_, hmono⟩
      · rw [hregistered, hpct]
        rfl
      · intro share hshare
        rw [hregistered, hpct] at hshare
        cases hshare
        refine iff_of_false (fun h => by cases h) fun h => ?_
        exact hnot (h cap rfl)
      · intro share hshare other hother
        rw [hregistered, hpct] at hshare
        cases hshare
        cases hother
        have hdiv := (tdiv_nonneg_iff hposInt).mpr hlow
        rw [Int64.le_iff_toInt_le, Int64.le_iff_toInt_le, hvalue]
        exact ⟨le_min hdiv (by decide), min_le_right _ _⟩

end Capacity

/-- A farm that says it has minus five hubs of ten fills minus fifty per cent. -/
theorem negative_not_capacityRight : ¬ CapacityRight (-5) (some 10) := by
  intro h
  have hwithin := (h.within (some (-50)) (by decide) (-50) rfl).1
  revert hwithin
  decide

end Voxply.Seed
