/-
# URL-safe base64

Three bytes are written as four digits of six bits, and one or two bytes that are
left over as two or three digits, without padding.  The decoder takes padded and
unpadded text alike, but no digit outside the alphabet and no bits that the encoder
would not have written.
-/

import Mathlib.Data.List.Basic
import Mathlib.Tactic.Common

namespace Voxply.Math.Base64

/-! ## Digits -/

/-- The digit of a value below sixty-four: capital and small letters, figures, `-`
and `_`. -/
def digit (n : ℕ) : UInt8 :=
  if n < 26 then UInt8.ofNat (65 + n)
  else if n < 52 then UInt8.ofNat (71 + n)
  else if n < 62 then UInt8.ofNat (n - 4)
  else if n = 62 then 45
  else 95

def value (c : UInt8) : Option ℕ :=
  if 65 ≤ c ∧ c ≤ 90 then some (c.toNat - 65)
  else if 97 ≤ c ∧ c ≤ 122 then some (c.toNat - 71)
  else if 48 ≤ c ∧ c ≤ 57 then some (c.toNat + 4)
  else if c = 45 then some 62
  else if c = 95 then some 63
  else none

/-- The padding, `=`. -/
def pad : UInt8 := 61

theorem value_digit {n : ℕ} (h : n < 64) : value (digit n) = some n := by
  have hall : ∀ n : Fin 64, value (digit n) = some n.val := by decide
  exact hall ⟨n, h⟩

theorem value_pad : value pad = none := by
  decide

/-- Digits are printable. -/
theorem lt_128_of_value {c : UInt8} {n : ℕ} (h : value c = some n) : c < 128 := by
  unfold value at h
  split_ifs at h with hcapital hsmall hfigure hminus hline
  · exact UInt8.lt_of_le_of_lt hcapital.2 (by decide)
  · exact UInt8.lt_of_le_of_lt hsmall.2 (by decide)
  · exact UInt8.lt_of_le_of_lt hfigure.2 (by decide)
  · rw [hminus]
    decide
  · rw [hline]
    decide

/-! ## Encoding -/

def encode : List UInt8 → List UInt8
  | [] => []
  | [a] => [digit (a.toNat / 4), digit (a.toNat % 4 * 16)]
  | [a, b] =>
      [digit (a.toNat / 4), digit (a.toNat % 4 * 16 + b.toNat / 16), digit (b.toNat % 16 * 4)]
  | a :: b :: c :: rest =>
      digit (a.toNat / 4) :: digit (a.toNat % 4 * 16 + b.toNat / 16) ::
        digit (b.toNat % 16 * 4 + c.toNat / 64) :: digit (c.toNat % 64) :: encode rest

/-! ## Decoding -/

/-- One byte from two digits. -/
def decodeOne (a b : UInt8) : Option (List UInt8) := do
  let x ← value a
  let y ← value b
  if y % 16 = 0 then some [UInt8.ofNat (x * 4 + y / 16)] else none

/-- Two bytes from three digits. -/
def decodeTwo (a b c : UInt8) : Option (List UInt8) := do
  let x ← value a
  let y ← value b
  let z ← value c
  if z % 4 = 0 then some [UInt8.ofNat (x * 4 + y / 16), UInt8.ofNat (y % 16 * 16 + z / 4)]
  else none

/-- Three bytes from four digits. -/
def decodeThree (a b c d : UInt8) : Option (List UInt8) := do
  let x ← value a
  let y ← value b
  let z ← value c
  let w ← value d
  some [UInt8.ofNat (x * 4 + y / 16), UInt8.ofNat (y % 16 * 16 + z / 4),
    UInt8.ofNat (z % 4 * 64 + w)]

/-- The last group of text, which may be padded from its third digit on. -/
def decodeLast (a b c d : UInt8) : Option (List UInt8) :=
  if d = pad then
    if c = pad then decodeOne a b else decodeTwo a b c
  else decodeThree a b c d

def decode : List UInt8 → Option (List UInt8)
  | [] => some []
  | [_] => none
  | [a, b] => decodeOne a b
  | [a, b, c] => if c = pad then decodeOne a b else decodeTwo a b c
  | [a, b, c, d] => decodeLast a b c d
  | a :: b :: c :: d :: e :: rest => do
      let bytes ← decodeThree a b c d
      let more ← decode (e :: rest)
      some (bytes ++ more)

/-! ## Round trip -/

section Groups

variable (a b c : UInt8)

theorem decodeOne_digits :
    decodeOne (digit (a.toNat / 4)) (digit (a.toNat % 4 * 16)) = some [a] := by
  have ha := a.toNat_lt
  have hbyte : a.toNat / 4 * 4 + a.toNat % 4 * 16 / 16 = a.toNat := by omega
  simp only [decodeOne, value_digit (show a.toNat / 4 < 64 by omega),
    value_digit (show a.toNat % 4 * 16 < 64 by omega), Option.bind_eq_bind, Option.bind_some, hbyte]
  simp

theorem decodeTwo_digits :
    decodeTwo (digit (a.toNat / 4)) (digit (a.toNat % 4 * 16 + b.toNat / 16))
      (digit (b.toNat % 16 * 4)) = some [a, b] := by
  have ha := a.toNat_lt
  have hb := b.toNat_lt
  have hfirst : a.toNat / 4 * 4 + (a.toNat % 4 * 16 + b.toNat / 16) / 16 = a.toNat := by omega
  have hsecond : (a.toNat % 4 * 16 + b.toNat / 16) % 16 * 16 + b.toNat % 16 * 4 / 4 = b.toNat := by
    omega
  simp only [decodeTwo, value_digit (show a.toNat / 4 < 64 by omega),
    value_digit (show a.toNat % 4 * 16 + b.toNat / 16 < 64 by omega),
    value_digit (show b.toNat % 16 * 4 < 64 by omega), Option.bind_eq_bind, Option.bind_some,
    hfirst, hsecond]
  simp

theorem decodeThree_digits :
    decodeThree (digit (a.toNat / 4)) (digit (a.toNat % 4 * 16 + b.toNat / 16))
      (digit (b.toNat % 16 * 4 + c.toNat / 64)) (digit (c.toNat % 64)) = some [a, b, c] := by
  have ha := a.toNat_lt
  have hb := b.toNat_lt
  have hc := c.toNat_lt
  have hfirst : a.toNat / 4 * 4 + (a.toNat % 4 * 16 + b.toNat / 16) / 16 = a.toNat := by omega
  have hsecond : (a.toNat % 4 * 16 + b.toNat / 16) % 16 * 16 +
      (b.toNat % 16 * 4 + c.toNat / 64) / 4 = b.toNat := by omega
  have hthird : (b.toNat % 16 * 4 + c.toNat / 64) % 4 * 64 + c.toNat % 64 = c.toNat := by omega
  simp only [decodeThree, value_digit (show a.toNat / 4 < 64 by omega),
    value_digit (show a.toNat % 4 * 16 + b.toNat / 16 < 64 by omega),
    value_digit (show b.toNat % 16 * 4 + c.toNat / 64 < 64 by omega),
    value_digit (show c.toNat % 64 < 64 by omega), Option.bind_eq_bind, Option.bind_some,
    hfirst, hsecond, hthird]
  simp

end Groups

theorem digit_ne_pad {n : ℕ} (h : n < 64) : digit n ≠ pad := by
  intro heq
  have hvalue := value_digit h
  rw [heq, value_pad] at hvalue
  cases hvalue

/-- Decoding undoes encoding. -/
@[simp]
theorem decode_encode (bytes : List UInt8) : decode (encode bytes) = some bytes := by
  induction bytes using encode.induct with
  | case1 => rfl
  | case2 a => exact decodeOne_digits a
  | case3 a b =>
      have hlast : digit (b.toNat % 16 * 4) ≠ pad := digit_ne_pad (by omega)
      rw [encode, decode, if_neg hlast, decodeTwo_digits]
  | case4 a b c rest ih =>
      rw [encode]
      cases hrest : encode rest with
      | nil =>
          have hlast : digit (c.toNat % 64) ≠ pad := digit_ne_pad (by omega)
          have hnil : rest = [] := by simpa [hrest, decode] using ih.symm
          rw [decode, decodeLast, if_neg hlast, decodeThree_digits, hnil]
      | cons e more =>
          rw [hrest] at ih
          rw [decode, decodeThree_digits, ih]
          rfl

/-! ## Decodable text -/

/-- Every byte is a digit or padding. -/
def Printed (text : List UInt8) : Prop :=
  ∀ c ∈ text, c = pad ∨ (value c).isSome

theorem printed_nil : Printed [] := by
  simp [Printed]

theorem printed_cons {c : UInt8} {text : List UInt8} :
    Printed (c :: text) ↔ (c = pad ∨ (value c).isSome) ∧ Printed text := by
  simp [Printed]

theorem digits_of_decodeOne {a b : UInt8} {bytes : List UInt8} (h : decodeOne a b = some bytes) :
    (value a).isSome ∧ (value b).isSome := by
  simp only [decodeOne, Option.bind_eq_bind, Option.bind_eq_some_iff] at h
  obtain ⟨x, hx, y, hy, -⟩ := h
  simp [hx, hy]

theorem digits_of_decodeTwo {a b c : UInt8} {bytes : List UInt8}
    (h : decodeTwo a b c = some bytes) :
    (value a).isSome ∧ (value b).isSome ∧ (value c).isSome := by
  simp only [decodeTwo, Option.bind_eq_bind, Option.bind_eq_some_iff] at h
  obtain ⟨x, hx, y, hy, z, hz, -⟩ := h
  simp [hx, hy, hz]

theorem digits_of_decodeThree {a b c d : UInt8} {bytes : List UInt8}
    (h : decodeThree a b c d = some bytes) :
    (value a).isSome ∧ (value b).isSome ∧ (value c).isSome ∧ (value d).isSome := by
  simp only [decodeThree, Option.bind_eq_bind, Option.bind_eq_some_iff] at h
  obtain ⟨x, hx, y, hy, z, hz, w, hw, -⟩ := h
  simp [hx, hy, hz, hw]

/-- What decodes has nothing but digits and padding in it. -/
theorem printed_of_decode {text bytes : List UInt8} (h : decode text = some bytes) :
    Printed text := by
  induction text using decode.induct generalizing bytes with
  | case1 => exact printed_nil
  | case2 a => cases h
  | case3 a b =>
      have hdigits := digits_of_decodeOne h
      simp [Printed, hdigits]
  | case4 a b =>
      rw [decode, if_pos rfl] at h
      have hdigits := digits_of_decodeOne h
      simp [Printed, hdigits]
  | case5 a b c hpad =>
      rw [decode, if_neg hpad] at h
      have hdigits := digits_of_decodeTwo h
      simp [Printed, hdigits]
  | case6 a b c d =>
      rw [decode, decodeLast] at h
      split_ifs at h with hfourth hthird
      · have hdigits := digits_of_decodeOne h
        simp [Printed, hdigits, hthird, hfourth]
      · have hdigits := digits_of_decodeTwo h
        simp [Printed, hdigits, hfourth]
      · have hdigits := digits_of_decodeThree h
        simp [Printed, hdigits]
  | case7 a b c d e rest ih =>
      simp only [decode, Option.bind_eq_bind, Option.bind_eq_some_iff] at h
      obtain ⟨first, hfirst, more, hmore, -⟩ := h
      have hdigits := digits_of_decodeThree hfirst
      iterate 4 rw [printed_cons]
      exact ⟨.inr hdigits.1, .inr hdigits.2.1, .inr hdigits.2.2.1, .inr hdigits.2.2.2, ih hmore⟩

theorem printed_encode (bytes : List UInt8) : Printed (encode bytes) :=
  printed_of_decode (decode_encode bytes)

theorem Printed.lt_128 {text : List UInt8} (h : Printed text) {c : UInt8} (hc : c ∈ text) :
    c < 128 := by
  rcases h c hc with rfl | hdigit
  · decide
  · obtain ⟨n, hn⟩ := Option.isSome_iff_exists.mp hdigit
    exact lt_128_of_value hn

/-- A byte that is neither a digit nor padding. -/
theorem Printed.not_mem {text : List UInt8} (h : Printed text) {c : UInt8} (hvalue : value c = none)
    (hpad : c ≠ pad) : c ∉ text := by
  intro hc
  rcases h c hc with rfl | hdigit
  · exact hpad rfl
  · simp [hvalue] at hdigit

end Voxply.Math.Base64
