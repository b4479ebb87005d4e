/-
# Decimal numbers of a fixed width

A number is printed with leading zeros up to some width, and with all its digits when it has
more.  Texts of one width are in the order of the numbers, and a text that starts with a field
of a fixed width is compared by that field first.
-/

import Mathlib.Algebra.Group.Nat.Defs
import Mathlib.Data.Nat.Basic
import Mathlib.Order.Basic
import Mathlib.Tactic.Tauto

namespace Voxply.Math

/-- Texts that start with fields of the same length. -/
theorem append_lt_append_iff {first first' : List Char} (rest rest' : List Char)
    (hlength : first.length = first'.length) :
    first ++ rest < first' ++ rest' ↔ first < first' ∨ first = first' ∧ rest < rest' := by
  induction first generalizing first' with
  | nil =>
      rw [List.length_nil, eq_comm, List.length_eq_zero_iff] at hlength
      subst hlength
      simp
  | cons c first ih =>
      cases first' with
      | nil => exact absurd hlength (Nat.succ_ne_zero _)
      | cons c' first' =>
          rw [List.length_cons, List.length_cons, Nat.add_right_cancel_iff] at hlength
          rw [List.cons_append, List.cons_append, List.cons_lt_cons_iff, List.cons_lt_cons_iff,
            ih hlength, List.cons.injEq]
          tauto

namespace Decimal

variable {w n m : ℕ}

/-- The last digits of a number. -/
def fixed : ℕ → ℕ → List Char
  | 0, _ => []
  | w + 1, n => fixed w (n / 10) ++ [(n % 10).digitChar]

/-- The number of digits. -/
def width (n : ℕ) : ℕ := (Nat.toDigits 10 n).length

/-- A number with leading zeros. -/
def padded (w n : ℕ) : List Char := (Nat.toDigits 10 n).leftpad w '0'

@[simp]
theorem length_fixed (w n : ℕ) : (fixed w n).length = w := by
  induction w generalizing n with
  | zero => rfl
  | succ w ih => rw [fixed, List.length_append, ih, List.length_singleton]

theorem lt_pow_width (n : ℕ) : n < 10 ^ width n :=
  (Nat.length_toDigits_le_iff (by decide) Nat.length_toDigits_pos).mp le_rfl

theorem width_le_iff (hw : 0 < w) : width n ≤ w ↔ n < 10 ^ w :=
  Nat.length_toDigits_le_iff (by decide) hw

theorem fixed_zero (w : ℕ) : fixed w 0 = List.replicate w '0' := by
  induction w with
  | zero => rfl
  | succ w ih =>
      rw [fixed, Nat.zero_div, ih, List.replicate_succ']
      rfl

/-- The digits of a number are the last digits of a width that is large enough, without the
zeros. -/
theorem fixed_eq (h : width n ≤ w) :
    fixed w n = List.replicate (w - width n) '0' ++ Nat.toDigits 10 n := by
  induction w generalizing n with
  | zero => exact absurd h (not_le.mpr Nat.length_toDigits_pos)
  | succ w ih =>
      rw [fixed]
      rcases Nat.lt_or_ge n 10 with hlt | hge
      · have hdigits : Nat.toDigits 10 n = [n.digitChar] := Nat.toDigits_of_lt_base hlt
        rw [Nat.div_eq_of_lt hlt, Nat.mod_eq_of_lt hlt, fixed_zero, width, hdigits]
        rfl
      · have hdigits : Nat.toDigits 10 n = Nat.toDigits 10 (n / 10) ++ [(n % 10).digitChar] :=
          Nat.toDigits_of_base_le (by decide) hge
        have hwidth : width n = width (n / 10) + 1 := by
          rw [width, hdigits, List.length_append, List.length_singleton, width]
        rw [ih (by omega), hdigits, hwidth, Nat.add_sub_add_right, List.append_assoc]

/-- A padded number has a fixed width, that of the padding or its own. -/
theorem padded_eq (w n : ℕ) : padded w n = fixed (max w (width n)) n := by
  rw [fixed_eq (le_max_right _ _)]
  show List.replicate (w - width n) '0' ++ _ = _
  rw [show max w (width n) - width n = w - width n by omega]

theorem padded_of_lt (hw : 0 < w) (h : n < 10 ^ w) : padded w n = fixed w n := by
  rw [padded_eq, max_eq_left ((width_le_iff hw).mpr h)]

/-- The leading digits come first. -/
theorem fixed_add (v w n : ℕ) : fixed (v + w) n = fixed v (n / 10 ^ w) ++ fixed w n := by
  induction w generalizing n with
  | zero => simp [fixed]
  | succ w ih =>
      rw [← Nat.add_assoc, fixed, ih, fixed, List.append_assoc, Nat.div_div_eq_div_mul,
        Nat.pow_succ']

theorem digitChar_lt_iff {a b : ℕ} (ha : a < 10) (hb : b < 10) :
    a.digitChar < b.digitChar ↔ a < b := by
  show a.digitChar.toNat < b.digitChar.toNat ↔ a < b
  rw [Nat.toNat_digitChar_of_lt_ten ha, Nat.toNat_digitChar_of_lt_ten hb, Nat.add_lt_add_iff_left]

theorem digitChar_inj {a b : ℕ} (ha : a < 10) (hb : b < 10) :
    a.digitChar = b.digitChar ↔ a = b := by
  rw [← Char.toNat_inj, Nat.toNat_digitChar_of_lt_ten ha, Nat.toNat_digitChar_of_lt_ten hb,
    Nat.add_left_cancel_iff]

/-- Texts of one width are equal when the numbers are. -/
theorem fixed_inj (hn : n < 10 ^ w) (hm : m < 10 ^ w) : fixed w n = fixed w m ↔ n = m := by
  induction w generalizing n m with
  | zero => simp [fixed]; omega
  | succ w ih =>
      rw [Nat.pow_succ'] at hn hm
      have hinit := ih (n := n / 10) (m := m / 10) (by omega) (by omega)
      have hlast := digitChar_inj (Nat.mod_lt n (by decide : 0 < 10))
        (Nat.mod_lt m (by decide : 0 < 10))
      constructor
      · intro h
        obtain ⟨hfirst, hchar⟩ := List.append_inj h (by simp)
        have hdiv := hinit.mp hfirst
        have hmod := hlast.mp (List.cons.inj hchar).1
        omega
      · rintro rfl
        rfl

/-- Texts of one width are in the order of the numbers. -/
theorem fixed_lt_iff (hn : n < 10 ^ w) (hm : m < 10 ^ w) : fixed w n < fixed w m ↔ n < m := by
  induction w generalizing n m with
  | zero => simp [fixed]; omega
  | succ w ih =>
      rw [Nat.pow_succ'] at hn hm
      have hinit := ih (n := n / 10) (m := m / 10) (by omega) (by omega)
      have hsame := fixed_inj (w := w) (n := n / 10) (m := m / 10) (by omega) (by omega)
      have hlast := digitChar_lt_iff (Nat.mod_lt n (by decide : 0 < 10))
        (Nat.mod_lt m (by decide : 0 < 10))
      rw [fixed, fixed, append_lt_append_iff _ _ (by simp), hinit, hsame, List.cons_lt_cons_iff,
        hlast]
      simp only [List.not_lt_nil, and_false, or_false]
      omega

/-- Padded numbers of one width, each before the same separator, are compared first. -/
theorem padded_append_lt_iff (hw : 0 < w) (hn : n < 10 ^ w) (hm : m < 10 ^ w) (c : Char)
    (rest rest' : List Char) :
    padded w n ++ c :: rest < padded w m ++ c :: rest' ↔ n < m ∨ n = m ∧ rest < rest' := by
  rw [padded_of_lt hw hn, padded_of_lt hw hm, append_lt_append_iff _ _ (by simp),
    fixed_lt_iff hn hm, fixed_inj hn hm, List.cons_lt_cons_self]

/-! ## Numbers of different widths -/

/-- The width of a number with leading zeros. -/
def paddedWidth (w n : ℕ) : ℕ := max w (width n)

theorem lt_pow_paddedWidth (w n : ℕ) : n < 10 ^ paddedWidth w n :=
  (lt_pow_width n).trans_le (Nat.pow_le_pow_right (by decide) (le_max_right _ _))

/-- A wider number is larger. -/
theorem lt_of_paddedWidth_lt (hw : 0 < w) (h : paddedWidth w n < paddedWidth w m) : n < m := by
  by_contra hle
  have hm : m < 10 ^ paddedWidth w n := (not_lt.mp hle).trans_lt (lt_pow_paddedWidth w n)
  have hwidth : width m ≤ paddedWidth w n :=
    (width_le_iff (hw.trans_le (le_max_left _ _))).mpr hm
  exact absurd (max_le (le_max_left _ _) hwidth) (not_le.mpr h)

theorem paddedWidth_eq_of_lt (hw : 0 < w) (h : n < 10 ^ w) : paddedWidth w n = w :=
  max_eq_left ((width_le_iff hw).mpr h)

/-- Numbers of the same width, before the same separator. -/
theorem padded_append_lt_iff_of_width (h : paddedWidth w n = paddedWidth w m) (c : Char)
    (rest rest' : List Char) :
    padded w n ++ c :: rest < padded w m ++ c :: rest' ↔ n < m ∨ n = m ∧ rest < rest' := by
  have hn := lt_pow_paddedWidth w n
  have hm := lt_pow_paddedWidth w m
  rw [← h] at hm
  rw [padded_eq, padded_eq]
  show fixed (paddedWidth w n) n ++ _ < fixed (paddedWidth w m) m ++ _ ↔ _
  rw [← h, append_lt_append_iff _ _ (by simp), fixed_lt_iff hn hm, fixed_inj hn hm,
    List.cons_lt_cons_self]

/-- The digits that come before those that a longer number has more. -/
theorem padded_eq_leading (h : paddedWidth w n < paddedWidth w m) :
    ∃ digit rest, digit < 10 ∧ padded w m =
      fixed (paddedWidth w n) (m / 10 ^ (paddedWidth w m - paddedWidth w n)) ++
        digit.digitChar :: rest := by
  obtain ⟨more, hmore⟩ : ∃ more, paddedWidth w m = paddedWidth w n + 1 + more :=
    ⟨paddedWidth w m - (paddedWidth w n + 1), by omega⟩
  refine ⟨m / 10 ^ more % 10, fixed more m, Nat.mod_lt _ (by decide), ?_⟩
  have hdiff : paddedWidth w m - paddedWidth w n = more + 1 := by omega
  rw [padded_eq]
  show fixed (paddedWidth w m) m = _
  rw [hmore, fixed_add, fixed, List.append_assoc, Nat.div_div_eq_div_mul, ← Nat.pow_succ]
  rw [show paddedWidth w n + 1 + more - paddedWidth w n = more + 1 by omega]
  rfl

theorem leading_lt (h : paddedWidth w n < paddedWidth w m) :
    m / 10 ^ (paddedWidth w m - paddedWidth w n) < 10 ^ paddedWidth w n := by
  rw [Nat.div_lt_iff_lt_mul (Nat.pow_pos (by decide)), ← Nat.pow_add, Nat.add_sub_cancel' h.le]
  exact lt_pow_paddedWidth w m

theorem dash_lt_digitChar {digit : ℕ} (h : digit < 10) : '-' < digit.digitChar := by
  show ('-').toNat < digit.digitChar.toNat
  rw [Nat.toNat_digitChar_of_lt_ten h]
  show 45 < 48 + digit
  omega

/-- A shorter number before a dash is compared with the leading digits of a longer one. -/
theorem padded_dash_lt_iff (h : paddedWidth w n < paddedWidth w m) (rest rest' : List Char) :
    padded w n ++ '-' :: rest < padded w m ++ '-' :: rest' ↔
      n ≤ m / 10 ^ (paddedWidth w m - paddedWidth w n) := by
  obtain ⟨digit, more, hdigit, hm⟩ := padded_eq_leading h
  have hlead := leading_lt h
  have hn := lt_pow_paddedWidth w n
  rw [hm, padded_eq w n]
  show fixed (paddedWidth w n) n ++ _ < _ ↔ _
  rw [List.append_assoc, append_lt_append_iff _ _ (by simp), fixed_lt_iff hn hlead,
    fixed_inj hn hlead, List.cons_append, List.cons_lt_cons_iff]
  have hdash := dash_lt_digitChar hdigit
  rw [le_iff_lt_or_eq]
  tauto

/-- The other way round. -/
theorem padded_lt_dash_iff (h : paddedWidth w n < paddedWidth w m) (rest rest' : List Char) :
    padded w m ++ '-' :: rest' < padded w n ++ '-' :: rest ↔
      m / 10 ^ (paddedWidth w m - paddedWidth w n) < n := by
  obtain ⟨digit, more, hdigit, hm⟩ := padded_eq_leading h
  have hlead := leading_lt h
  have hn := lt_pow_paddedWidth w n
  rw [hm, padded_eq w n]
  show _ < fixed (paddedWidth w n) n ++ _ ↔ _
  rw [List.append_assoc, append_lt_append_iff _ _ (by simp), fixed_lt_iff hlead hn,
    fixed_inj hlead hn, List.cons_append, List.cons_lt_cons_iff]
  have hdash := dash_lt_digitChar hdigit
  have hnot : ¬ digit.digitChar < '-' := Char.lt_asymm hdash
  have hne : digit.digitChar ≠ '-' := (Char.ne_of_lt hdash).symm
  tauto

end Decimal

end Voxply.Math
