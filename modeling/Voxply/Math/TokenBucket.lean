/-
# Token buckets

A bucket holds at most a burst of tokens and refills at a rate.  Whatever asks for a token
when there is one takes it; otherwise it is turned away.  A bucket that has not been used yet
is full.

Over requests in the order of time, what a bucket grants in a window is bounded by the burst
and the length of the window: the tokens that have been taken since the window began and those
that are left were there at its beginning or have been refilled since.  Time differences that
would be negative count as nothing, so that requests out of order refill a bucket twice; the
bound is for requests in order.
-/

import Mathlib.Algebra.Order.Field.Basic
import Mathlib.Tactic.Linarith
import Mathlib.Tactic.Ring

namespace Voxply.Math

universe u

/-- The tokens that were left at some time. -/
structure TokenBucket (K : Type u) where
  tokens : K
  last : K

namespace TokenBucket

section Definitions

variable {K : Type u} [Field K] [LinearOrder K]

/-- The tokens at a later time. -/
def refill (burst rate now : K) (b : TokenBucket K) : K :=
  min (b.tokens + max 0 (now - b.last) * rate) burst

/-- Take a token if there is one. -/
def take (burst rate now : K) (b : TokenBucket K) : Bool × TokenBucket K :=
  if 1 ≤ b.refill burst rate now then (true, ⟨b.refill burst rate now - 1, now⟩)
  else (false, ⟨b.refill burst rate now, now⟩)

/-- A bucket that is full when it is used for the first time. -/
def orFull (burst now : K) (o : Option (TokenBucket K)) : TokenBucket K :=
  o.getD ⟨burst, now⟩

/-- The times of the requests that are granted. -/
def granted (burst rate : K) : List K → Option (TokenBucket K) → List K
  | [], _ => []
  | now :: rest, o =>
      let (ok, b) := (orFull burst now o).take burst rate now
      if ok then now :: granted burst rate rest (some b) else granted burst rate rest (some b)

end Definitions

variable {K : Type u} [Field K] [LinearOrder K] [IsStrictOrderedRing K]
  {burst rate now : K} {b : TokenBucket K}

omit [IsStrictOrderedRing K] in
theorem refill_le (burst rate now : K) (b : TokenBucket K) : b.refill burst rate now ≤ burst :=
  min_le_right _ _

theorem refill_nonneg (now : K) (hburst : 0 ≤ burst) (hrate : 0 ≤ rate) (h : 0 ≤ b.tokens) :
    0 ≤ b.refill burst rate now :=
  le_min (add_nonneg h (mul_nonneg (le_max_left _ _) hrate)) hburst

/-- A bucket that has had the time to fill up is full. -/
theorem refill_eq_burst (hrate : 0 ≤ rate) (h : 0 ≤ b.tokens)
    (hidle : burst ≤ (now - b.last) * rate) : b.refill burst rate now = burst := by
  apply min_eq_right
  have hmax : (now - b.last) * rate ≤ max 0 (now - b.last) * rate :=
    mul_le_mul_of_nonneg_right (le_max_right _ _) hrate
  linarith

omit [IsStrictOrderedRing K] in
theorem refill_full (burst rate now : K) :
    (⟨burst, now⟩ : TokenBucket K).refill burst rate now = burst := by
  show min (burst + max 0 (now - now) * rate) burst = burst
  rw [sub_self, max_self, zero_mul, add_zero, min_self]

omit [IsStrictOrderedRing K] in
theorem take_last (burst rate now : K) (b : TokenBucket K) :
    (b.take burst rate now).2.last = now := by
  unfold take
  split_ifs <;> rfl

/-- Between none and the burst. -/
def Within (burst : K) (b : TokenBucket K) : Prop :=
  0 ≤ b.tokens ∧ b.tokens ≤ burst

theorem Within.take (h : b.Within burst) (hrate : 0 ≤ rate) :
    (b.take burst rate now).2.Within burst := by
  have hburst : 0 ≤ burst := h.1.trans h.2
  have hlow := refill_nonneg now hburst hrate h.1
  have hhigh := refill_le burst rate now b
  unfold TokenBucket.take
  split_ifs with hone
  · exact ⟨sub_nonneg.mpr hone, (sub_le_self _ zero_le_one).trans hhigh⟩
  · exact ⟨hlow, hhigh⟩

/-! ## What is granted in a window -/

section Window

variable {s t : K} {count : ℕ}

/-- The granted times from `s` to `t`. -/
def within (s t : K) (times : List K) : List K :=
  times.filter fun n => s ≤ n ∧ n ≤ t

omit [Field K] [IsStrictOrderedRing K] in
theorem within_cons_of_mem {n : K} {times : List K} (hs : s ≤ n) (ht : n ≤ t) :
    within s t (n :: times) = n :: within s t times :=
  List.filter_cons_of_pos (decide_eq_true ⟨hs, ht⟩)

omit [Field K] [IsStrictOrderedRing K] in
theorem within_cons_of_not {n : K} {times : List K} (h : ¬ (s ≤ n ∧ n ≤ t)) :
    within s t (n :: times) = within s t times :=
  List.filter_cons_of_neg (by simpa using h)

omit [IsStrictOrderedRing K] in
theorem granted_subset {times : List K} {o : Option (TokenBucket K)} :
    granted burst rate times o ⊆ times := by
  induction times generalizing o with
  | nil => exact List.Subset.refl []
  | cons now rest ih =>
      unfold granted
      dsimp only
      split_ifs
      · exact List.cons_subset_cons now ih
      · exact List.Subset.trans ih (List.subset_cons_self now rest)

/-- What has been granted in the window so far, and what is left for it. -/
structure Accounts (burst rate s t : K) (count : ℕ) (o : Option (TokenBucket K)) : Prop where
  total : (count : K) ≤ burst + rate * (t - s)
  left : count = 0 ∨ ∃ b ∈ o, s ≤ b.last ∧ count + b.tokens ≤ burst + rate * (b.last - s)

/-- What there is at a time of the window has been refilled since it began. -/
theorem Accounts.refill {o : Option (TokenBucket K)} (h : Accounts burst rate s t count o)
    (hrate : 0 ≤ rate) (hs : s ≤ now) (hlast : ∀ b ∈ o, b.last ≤ now) :
    count + (orFull burst now o).refill burst rate now ≤ burst + rate * (now - s) := by
  rcases h.left with hzero | ⟨b, hb, hsb, hleft⟩
  · have hfull := refill_le burst rate now (orFull burst now o)
    have hwindow := mul_nonneg hrate (sub_nonneg.mpr hs)
    rw [hzero, Nat.cast_zero]
    linarith
  · rw [Option.mem_def.mp hb]
    show count + min (b.tokens + max 0 (now - b.last) * rate) burst ≤ _
    have hrefilled : min (b.tokens + max 0 (now - b.last) * rate) burst ≤
        b.tokens + (now - b.last) * rate := by
      rw [max_eq_right (sub_nonneg.mpr (hlast b hb))]
      exact min_le_left _ _
    linarith

/-- A request in the window keeps the accounts. -/
theorem Accounts.take {o : Option (TokenBucket K)} (h : Accounts burst rate s t count o)
    (hrate : 0 ≤ rate) (hs : s ≤ now) (ht : now ≤ t) (hlast : ∀ b ∈ o, b.last ≤ now) :
    Accounts burst rate s t
      (if ((orFull burst now o).take burst rate now).1 then count + 1 else count)
      (some ((orFull burst now o).take burst rate now).2) := by
  have hrefill := h.refill hrate hs hlast
  have hbound : rate * (now - s) ≤ rate * (t - s) :=
    mul_le_mul_of_nonneg_left (sub_le_sub_right ht s) hrate
  by_cases hone : 1 ≤ (orFull burst now o).refill burst rate now
  · have htake : (orFull burst now o).take burst rate now =
        (true, ⟨(orFull burst now o).refill burst rate now - 1, now⟩) := if_pos hone
    rw [htake]
    show Accounts burst rate s t (count + 1)
      (some ⟨(orFull burst now o).refill burst rate now - 1, now⟩)
    constructor
    · push_cast
      linarith
    · refine .inr ⟨_, rfl, hs, ?_⟩
      push_cast
      linarith
  · have htake : (orFull burst now o).take burst rate now =
        (false, ⟨(orFull burst now o).refill burst rate now, now⟩) := if_neg hone
    rw [htake]
    exact ⟨h.total, .inr ⟨_, rfl, hs, hrefill⟩⟩

/-- The bound, when some requests of the window have been granted already. -/
theorem length_granted_add_le {times : List K} {o : Option (TokenBucket K)} (hrate : 0 ≤ rate)
    (hsorted : times.Pairwise (· ≤ ·)) (hlast : ∀ b ∈ o, ∀ n ∈ times, b.last ≤ n)
    (h : Accounts burst rate s t count o) :
    (count : K) + ((within s t (granted burst rate times o)).length : K) ≤
      burst + rate * (t - s) := by
  induction times generalizing o count with
  | nil =>
      rw [granted, within, List.filter_nil, List.length_nil, Nat.cast_zero, add_zero]
      exact h.total
  | cons now rest ih =>
      obtain ⟨hfirst, hrest⟩ := List.pairwise_cons.mp hsorted
      have hnext : ∀ b ∈ some ((orFull burst now o).take burst rate now).2, ∀ n ∈ rest,
          b.last ≤ n := by
        rintro b hb n hn
        cases hb
        rw [take_last]
        exact hfirst n hn
      have hnow : ∀ b ∈ o, b.last ≤ now := fun b hb => hlast b hb now List.mem_cons_self
      rw [granted]
      dsimp only
      by_cases ht : now ≤ t
      · by_cases hs : s ≤ now
        · have htaken := h.take hrate hs ht hnow
          have hih := ih hrest hnext htaken
          split_ifs at hih ⊢
          · rw [within_cons_of_mem hs ht, List.length_cons]
            push_cast at hih ⊢
            linarith
          · exact hih
        · -- Before the window nothing has been counted.
          have hzero : count = 0 := by
            rcases h.left with hzero | ⟨b, hb, hsb, -⟩
            · exact hzero
            · exact absurd (hsb.trans (hnow b hb)) hs
          have hunstarted : Accounts burst rate s t count
              (some ((orFull burst now o).take burst rate now).2) := ⟨h.total, .inl hzero⟩
          have hih := ih hrest hnext hunstarted
          split_ifs
          · rwa [within_cons_of_not fun hin => hs hin.1]
          · exact hih
      · -- After the window nothing is counted any more.
        have hlate : within s t (granted burst rate rest
            (some ((orFull burst now o).take burst rate now).2)) = [] := by
          rw [within, List.filter_eq_nil_iff]
          intro n hn
          rw [decide_eq_true_eq]
          exact fun hin => ht ((hfirst n (granted_subset hn)).trans hin.2)
        have htotal := h.total
        split_ifs
        · rw [within_cons_of_not fun hin => ht hin.2, hlate, List.length_nil,
            Nat.cast_zero, add_zero]
          exact htotal
        · rw [hlate, List.length_nil, Nat.cast_zero, add_zero]
          exact htotal

/-- Over requests in order, a bucket grants in a window at most the burst and what is refilled
during the window. -/
theorem length_granted_le {times : List K} (hburst : 0 ≤ burst) (hrate : 0 ≤ rate) (hst : s ≤ t)
    (hsorted : times.Pairwise (· ≤ ·)) :
    ((within s t (granted burst rate times none)).length : K) ≤ burst + rate * (t - s) := by
  have hstart : Accounts burst rate s t 0 (none : Option (TokenBucket K)) := by
    refine ⟨?_, .inl rfl⟩
    have hwindow := mul_nonneg hrate (sub_nonneg.mpr hst)
    rw [Nat.cast_zero]
    linarith
  have hbound := length_granted_add_le hrate hsorted (fun b hb => by cases hb) hstart
  rwa [Nat.cast_zero, zero_add] at hbound

end Window

end TokenBucket

end Voxply.Math
