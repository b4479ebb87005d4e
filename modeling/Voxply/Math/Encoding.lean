/-
# Self-delimiting encodings

A hand-written wire format is a concatenation of fields.  Whether two records
can share one byte string is decided field by field: a field is harmless when
its encoding can be read off in one way only, whatever bytes follow it.  This
module states that property once, proves it for the building blocks of binary
formats (fixed-width little-endian numbers, tags closed by a stop symbol,
counted lists) and leaves the peeling of a concrete record to its owner.

The symbols and the values are arbitrary.  A domain restricts the values, since
a counted or length-carrying field is read off uniquely only while its length
fits the counter.
-/

import Mathlib.Algebra.Group.Nat.Defs
import Mathlib.Data.List.Basic
import Mathlib.Data.Nat.Basic
import Mathlib.Data.Nat.Digits.Defs
import Mathlib.Tactic.Common
import Mathlib.Tactic.Ring

namespace Voxply.Math

universe u v

variable {A : Type u} {C : Type v}

/-- An encoder is self-delimiting on a domain when an encoded domain value
followed by anything determines both the value and what follows it. -/
def SelfDelimiting (domain : A → Prop) (encode : A → List C) : Prop :=
  ∀ ⦃a b : A⦄ ⦃rest tail : List C⦄, domain a → domain b →
    encode a ++ rest = encode b ++ tail → a = b ∧ rest = tail

namespace SelfDelimiting

/-- Equal-length encodings are cut at the same place, so injectivity on the
domain is all a fixed-width field needs. -/
theorem of_length_eq {domain : A → Prop} {encode : A → List C} (width : ℕ)
    (length_eq : ∀ a, domain a → (encode a).length = width)
    (injective : ∀ a b, domain a → domain b → encode a = encode b → a = b) :
    SelfDelimiting domain encode := by
  intro a b rest tail ha hb heq
  have hlength : (encode a).length = (encode b).length := by
    rw [length_eq a ha, length_eq b hb]
  obtain ⟨hencode, hrest⟩ := List.append_inj heq hlength
  exact ⟨injective a b ha hb hencode, hrest⟩

/-- Nothing need follow: a self-delimiting encoding is injective on its domain. -/
theorem eq_of_encode_eq {domain : A → Prop} {encode : A → List C}
    (h : SelfDelimiting domain encode) {a b : A} (ha : domain a) (hb : domain b)
    (heq : encode a = encode b) : a = b := by
  have happend : encode a ++ [] = encode b ++ [] := by rw [heq]
  exact (h ha hb happend).1

/-- Reading a value through an injective view keeps the field self-delimiting. -/
theorem comap {B : Type*} {domain : B → Prop} {encode : B → List C}
    (h : SelfDelimiting domain encode) (view : A → B)
    (injective : Function.Injective view) :
    SelfDelimiting (fun a => domain (view a)) (fun a => encode (view a)) := by
  intro a b rest tail ha hb heq
  obtain ⟨hview, hrest⟩ := h ha hb heq
  exact ⟨injective hview, hrest⟩

/-- A tag closed by a stop symbol that does not occur in it ends at the first
stop symbol. -/
theorem closed (stop : C) :
    SelfDelimiting (fun tag : List C => stop ∉ tag) (fun tag => tag ++ [stop]) := by
  intro a
  induction a with
  | nil =>
      intro b rest tail _ hb heq
      cases b with
      | nil => simpa using heq
      | cons symbol b =>
          simp only [List.nil_append, List.cons_append, List.cons.injEq] at heq
          exact absurd (by simp [heq.1]) hb
  | cons symbol a ih =>
      intro b rest tail ha hb heq
      cases b with
      | nil =>
          simp only [List.nil_append, List.cons_append, List.cons.injEq] at heq
          exact absurd (by simp [heq.1]) ha
      | cons other b =>
          simp only [List.cons_append, List.cons.injEq] at heq
          obtain ⟨hsymbol, heq⟩ := heq
          obtain ⟨htag, hrest⟩ := ih (List.not_mem_of_not_mem_cons ha)
            (List.not_mem_of_not_mem_cons hb) heq
          exact ⟨by rw [hsymbol, htag], hrest⟩

/-- Two lists of the same length, encoded item after item, are read off item
by item. -/
theorem flatMap_inj {domain : A → Prop} {encode : A → List C}
    (h : SelfDelimiting domain encode) :
    ∀ {xs ys : List A} {rest tail : List C}, xs.length = ys.length →
      (∀ x ∈ xs, domain x) → (∀ y ∈ ys, domain y) →
      xs.flatMap encode ++ rest = ys.flatMap encode ++ tail → xs = ys ∧ rest = tail := by
  intro xs
  induction xs with
  | nil =>
      intro ys rest tail hlength _ _ heq
      obtain rfl : ys = [] := List.eq_nil_of_length_eq_zero hlength.symm
      exact ⟨rfl, by simpa using heq⟩
  | cons x xs ih =>
      intro ys rest tail hlength hxs hys heq
      cases ys with
      | nil => simp at hlength
      | cons y ys =>
          simp only [List.flatMap_cons, List.append_assoc] at heq
          obtain ⟨rfl, hitems⟩ := h (hxs x (by simp)) (hys y (by simp)) heq
          obtain ⟨rfl, hrest⟩ := ih (by simpa using hlength)
            (fun z hz => hxs z (by simp [hz])) (fun z hz => hys z (by simp [hz])) hitems
          exact ⟨rfl, hrest⟩

/-- A list that carries its length in front is self-delimiting as soon as the
length field and the items are. -/
theorem counted {lengths : ℕ → Prop} {count : ℕ → List C}
    (hcount : SelfDelimiting lengths count)
    {domain : A → Prop} {encode : A → List C} (h : SelfDelimiting domain encode) :
    SelfDelimiting (fun xs : List A => lengths xs.length ∧ ∀ x ∈ xs, domain x)
      (fun xs => count xs.length ++ xs.flatMap encode) := by
  intro xs ys rest tail hxs hys heq
  simp only [List.append_assoc] at heq
  obtain ⟨hlength, heq⟩ := hcount hxs.1 hys.1 heq
  exact h.flatMap_inj hlength hxs.2 hys.2 heq

end SelfDelimiting

/-! ## Little-endian numbers -/

/-- The `width` low-order bytes of a number, lowest first. -/
def leBytes : ℕ → ℕ → List UInt8
  | 0, _ => []
  | width + 1, n => UInt8.ofNat n :: leBytes width (n / 256)

@[simp]
theorem length_leBytes (width n : ℕ) : (leBytes width n).length = width := by
  induction width generalizing n with
  | zero => rfl
  | succ width ih => simp [leBytes, ih]

/-- Numbers that fit the width are recovered from their bytes. -/
theorem leBytes_inj {width : ℕ} :
    ∀ {m n : ℕ}, m < 256 ^ width → n < 256 ^ width →
      leBytes width m = leBytes width n → m = n := by
  induction width with
  | zero =>
      intro m n hm hn _
      simp only [Nat.pow_zero] at hm hn
      omega
  | succ width ih =>
      intro m n hm hn heq
      simp only [leBytes, List.cons.injEq] at heq
      obtain ⟨hlow, hhigh⟩ := heq
      have hlow : m % 256 = n % 256 := by simpa using congrArg UInt8.toNat hlow
      have hhigh : m / 256 = n / 256 :=
        ih (by rw [Nat.pow_succ] at hm; omega) (by rw [Nat.pow_succ] at hn; omega) hhigh
      omega

/-- A fixed-width little-endian field is self-delimiting on the numbers that
fit it. -/
theorem leBytes_selfDelimiting (width : ℕ) :
    SelfDelimiting (fun n => n < 256 ^ width) (leBytes width) :=
  SelfDelimiting.of_length_eq width (fun n _ => length_leBytes width n)
    (fun _ _ hm hn heq => leBytes_inj hm hn heq)

/-! ## Big-endian numbers -/

/-- The number that bytes spell, highest first. -/
def beValue (bytes : List UInt8) : ℕ :=
  Nat.ofDigits 256 (bytes.reverse.map (·.toNat))

theorem beValue_cons (byte : UInt8) (rest : List UInt8) :
    beValue (byte :: rest) = byte.toNat * 256 ^ rest.length + beValue rest := by
  rw [beValue, beValue, List.reverse_cons, List.map_append, Nat.ofDigits_append, List.length_map,
    List.length_reverse, List.map_singleton, Nat.ofDigits_singleton]
  ring

/-- The value fits the width. -/
theorem beValue_lt (bytes : List UInt8) : beValue bytes < 256 ^ bytes.length := by
  induction bytes with
  | nil => exact Nat.one_pos
  | cons byte rest ih =>
      have hbyte : byte.toNat + 1 ≤ 256 := byte.toNat_lt
      calc beValue (byte :: rest)
          = byte.toNat * 256 ^ rest.length + beValue rest := beValue_cons byte rest
        _ < byte.toNat * 256 ^ rest.length + 256 ^ rest.length := Nat.add_lt_add_left ih _
        _ = (byte.toNat + 1) * 256 ^ rest.length := by ring
        _ ≤ 256 * 256 ^ rest.length := Nat.mul_le_mul_right _ hbyte
        _ = 256 ^ (byte :: rest).length := by rw [List.length_cons, pow_succ']

end Voxply.Math
