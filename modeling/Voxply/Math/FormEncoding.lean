/-
# Form encoding

Texts in a query are written byte by byte: letters, digits and a few signs stand for themselves,
a space is a plus sign or escaped, and every other byte is escaped with a percent sign and two
hexadecimal digits.  What is written holds neither the sign between pairs nor the one between a
name and its value.
-/

import Mathlib.Data.List.Basic
import Mathlib.Tactic.Common

namespace Voxply.Math

namespace FormEncoding

/-- The bytes that stand for themselves. -/
def unreserved (b : UInt8) : Bool :=
  48 ≤ b ∧ b ≤ 57 ∨ 65 ≤ b ∧ b ≤ 90 ∨ 97 ≤ b ∧ b ≤ 122 ∨ b = 42 ∨ b = 45 ∨ b = 46 ∨ b = 95

/-- The upper-case digit of a value below sixteen. -/
def hexDigit (n : ℕ) : Char :=
  if n < 10 then Char.ofNat (48 + n) else Char.ofNat (55 + n)

/-- What is written for a byte; `plus` says how spaces are written. -/
def encodeByte (plus : Bool) (b : UInt8) : List Char :=
  if unreserved b then [Char.ofNat b.toNat]
  else if b = 32 ∧ plus then ['+']
  else ['%', hexDigit (b.toNat / 16), hexDigit (b.toNat % 16)]

def encodeBytes (plus : Bool) (bytes : List UInt8) : List Char :=
  bytes.flatMap (encodeByte plus)

/-- The pairs of a form, one after the other. -/
def encodePairs (plus : Bool) (pairs : List (List UInt8 × List UInt8)) : List Char :=
  ['&'].intercalate (pairs.map fun p => encodeBytes plus p.1 ++ '=' :: encodeBytes plus p.2)

/-- A byte is written as itself, as a plus sign or with an escape. -/
theorem encodeByte_cases (plus : Bool) (b : UInt8) :
    unreserved b = true ∧ encodeByte plus b = [Char.ofNat b.toNat] ∨
    b = 32 ∧ encodeByte plus b = ['+'] ∨
    unreserved b = false ∧
      encodeByte plus b = ['%', hexDigit (b.toNat / 16), hexDigit (b.toNat % 16)] := by
  unfold encodeByte
  split_ifs with hkept hspace
  · exact .inl ⟨hkept, rfl⟩
  · exact .inr (.inl ⟨hspace.1, rfl⟩)
  · exact .inr (.inr ⟨Bool.eq_false_iff.mpr hkept, rfl⟩)

/-- Neither separator is written for a byte. -/
theorem not_mem_encodeByte (plus : Bool) (b : UInt8) :
    '&' ∉ encodeByte plus b ∧ '=' ∉ encodeByte plus b := by
  have hall : ∀ plus : Bool, ∀ n : Fin 256, '&' ∉ encodeByte plus (.ofNat n) ∧
      '=' ∉ encodeByte plus (.ofNat n) := by
    decide +kernel
  have hbyte := hall plus ⟨b.toNat, b.toNat_lt⟩
  rwa [UInt8.ofNat_toNat] at hbyte

theorem not_mem_encodeBytes (plus : Bool) (bytes : List UInt8) :
    '&' ∉ encodeBytes plus bytes ∧ '=' ∉ encodeBytes plus bytes := by
  constructor
  · intro hmem
    obtain ⟨b, -, hb⟩ := List.mem_flatMap.mp hmem
    exact (not_mem_encodeByte plus b).1 hb
  · intro hmem
    obtain ⟨b, -, hb⟩ := List.mem_flatMap.mp hmem
    exact (not_mem_encodeByte plus b).2 hb

/-- The pairs are found between the separators. -/
theorem splitOn_encodePairs (plus : Bool) {pairs : List (List UInt8 × List UInt8)}
    (h : pairs ≠ []) :
    (encodePairs plus pairs).splitOn '&' =
      pairs.map fun p => encodeBytes plus p.1 ++ '=' :: encodeBytes plus p.2 := by
  apply List.splitOn_intercalate
  · intro text htext
    obtain ⟨p, -, rfl⟩ := List.mem_map.mp htext
    have hfirst := (not_mem_encodeBytes plus p.1).1
    have hsecond := (not_mem_encodeBytes plus p.2).1
    simp [hfirst, hsecond]
  · simpa using h

theorem takeWhile_encoded (plus : Bool) (bytes : List UInt8) (rest : List Char) :
    (encodeBytes plus bytes ++ '=' :: rest).takeWhile (· ≠ '=') = encodeBytes plus bytes := by
  have hall : ∀ c ∈ encodeBytes plus bytes, decide (c ≠ '=') = true := by
    intro c hc
    rw [decide_eq_true_eq]
    rintro rfl
    exact (not_mem_encodeBytes plus bytes).2 hc
  rw [List.takeWhile_append_of_pos hall, List.takeWhile_cons_of_neg (by simp), List.append_nil]

theorem dropWhile_encoded (plus : Bool) (bytes : List UInt8) (rest : List Char) :
    (encodeBytes plus bytes ++ '=' :: rest).dropWhile (· ≠ '=') = '=' :: rest := by
  have hall : ∀ c ∈ encodeBytes plus bytes, decide (c ≠ '=') = true := by
    intro c hc
    rw [decide_eq_true_eq]
    rintro rfl
    exact (not_mem_encodeBytes plus bytes).2 hc
  rw [List.dropWhile_append_of_pos hall, List.dropWhile_cons_of_neg (by simp)]

end FormEncoding

end Voxply.Math
