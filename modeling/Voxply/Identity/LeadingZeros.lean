/-
# Leading zeros

The leading zero bits of a byte string bound the number that it spells: there are at least
`k` of them exactly if the number has at most as many bits as are left.  The program counts
them in 32 bits, so the count is the right one unless there are `2 ^ 29` leading zero bytes.
-/

import Voxply.Identity.Pow

namespace Voxply.Identity

open Voxply.Math

/-! ## The number of leading zeros -/

theorem leadingZeros_le {byte : UInt8} (hbyte : byte ≠ 0) : leadingZeros byte ≤ 7 := by
  rw [leadingZeros, if_neg hbyte]
  exact Nat.sub_le 7 _

/-- Within one byte. -/
theorem le_leadingZeros_iff {byte : UInt8} (hbyte : byte ≠ 0) {k : ℕ} (hk : k ≤ 8) :
    k ≤ leadingZeros byte ↔ byte.toNat < 2 ^ (8 - k) := by
  have hpos : byte.toNat ≠ 0 := fun h => hbyte (UInt8.toNat_inj.mp h)
  have hlog : Nat.log2 byte.toNat < 8 := (Nat.log2_lt hpos).mpr byte.toNat_lt
  rw [leadingZeros, if_neg hbyte, ← Nat.log2_lt hpos]
  omega

theorem leadingZeroBits_le (hash : List UInt8) : leadingZeroBits hash ≤ 8 * hash.length := by
  induction hash with
  | nil => exact Nat.le_refl 0
  | cons byte rest ih =>
      rw [leadingZeroBits, List.length_cons]
      split_ifs with hbyte
      · omega
      · have hlevel := leadingZeros_le hbyte
        omega

/-- The bytes that are left of a width. -/
theorem two_pow_width (bits width : ℕ) : 2 ^ (bits + 8 * width) = 2 ^ bits * 256 ^ width := by
  rw [pow_add, pow_mul]
  norm_num

/-- There are at least `k` leading zeros exactly if the number has no more bits than the
others. -/
theorem le_leadingZeroBits_iff (hash : List UInt8) {k : ℕ} (hk : k ≤ 8 * hash.length) :
    k ≤ leadingZeroBits hash ↔ beValue hash < 2 ^ (8 * hash.length - k) := by
  induction hash generalizing k with
  | nil =>
      rw [List.length_nil, Nat.mul_zero, Nat.le_zero] at hk
      subst hk
      exact iff_of_true (Nat.le_refl 0) Nat.one_pos
  | cons byte rest ih =>
      rw [List.length_cons] at hk ⊢
      have hrest := beValue_lt rest
      rw [leadingZeroBits, beValue_cons]
      rcases Nat.lt_or_ge 8 k with hlong | hshort
      · -- More zeros than the first byte has: they go on in the rest if that byte is zero.
        have hwidth : 8 * (rest.length + 1) - k = 8 * rest.length - (k - 8) := by omega
        rw [hwidth]
        split_ifs with hbyte
        · subst hbyte
          have hleft : k - 8 ≤ 8 * rest.length := by omega
          rw [UInt8.toNat_zero, Nat.zero_mul, Nat.zero_add, ← ih hleft]
          exact Nat.sub_le_iff_le_add'.symm
        · have hpos : 1 ≤ byte.toNat :=
            Nat.one_le_iff_ne_zero.mpr fun h => hbyte (UInt8.toNat_inj.mp h)
          have hlevel := leadingZeros_le hbyte
          refine iff_of_false (by omega) (Nat.not_lt.mpr ?_)
          calc 2 ^ (8 * rest.length - (k - 8))
              ≤ 2 ^ (0 + 8 * rest.length) := Nat.pow_le_pow_right Nat.two_pos (by omega)
            _ = 1 * 256 ^ rest.length := two_pow_width 0 rest.length
            _ ≤ byte.toNat * 256 ^ rest.length := Nat.mul_le_mul_right _ hpos
            _ ≤ byte.toNat * 256 ^ rest.length + beValue rest := Nat.le_add_right _ _
      · -- The first byte decides.
        have hwidth : 8 * (rest.length + 1) - k = 8 - k + 8 * rest.length := by omega
        have hsplit : byte.toNat * 256 ^ rest.length + beValue rest <
            2 ^ (8 - k) * 256 ^ rest.length ↔ byte.toNat < 2 ^ (8 - k) := by
          constructor
          · intro h
            exact Nat.lt_of_mul_lt_mul_right (Nat.lt_of_le_of_lt (Nat.le_add_right _ _) h)
          · intro h
            calc byte.toNat * 256 ^ rest.length + beValue rest
                < byte.toNat * 256 ^ rest.length + 256 ^ rest.length := Nat.add_lt_add_left hrest _
              _ = (byte.toNat + 1) * 256 ^ rest.length := by ring
              _ ≤ 2 ^ (8 - k) * 256 ^ rest.length := Nat.mul_le_mul_right _ h
        rw [hwidth, two_pow_width, hsplit]
        split_ifs with hbyte
        · subst hbyte
          exact iff_of_true (by omega) (Nat.two_pow_pos _)
        · exact le_leadingZeros_iff hbyte hshort

/-! ## The count -/

/-- The loop of `leading_zero_bits`, as it counts in 32 bits. -/
def countZeros (count : UInt32) : List UInt8 → UInt32
  | [] => count
  | byte :: rest =>
      if byte = 0 then countZeros (count + 8) rest else count + .ofNat (leadingZeros byte)

/-- `leading_zero_bits`. -/
def leadingZeroBits32 (hash : List UInt8) : UInt32 :=
  countZeros 0 hash

theorem toNat_countZeros (count : UInt32) (hash : List UInt8) :
    (countZeros count hash).toNat = (count.toNat + leadingZeroBits hash) % 2 ^ 32 := by
  induction hash generalizing count with
  | nil => exact (Nat.mod_eq_of_lt count.toNat_lt).symm
  | cons byte rest ih =>
      rw [countZeros, leadingZeroBits]
      split_ifs with hbyte
      · have hadd : (count + 8).toNat = (count.toNat + 8) % 2 ^ 32 := UInt32.toNat_add count 8
        rw [ih, hadd, Nat.mod_add_mod, Nat.add_assoc]
      · rw [UInt32.toNat_add, UInt32.toNat_ofNat', Nat.add_mod_mod]

/-- The count is the number of leading zeros up to overflow. -/
theorem toNat_leadingZeroBits32 (hash : List UInt8) :
    (leadingZeroBits32 hash).toNat = leadingZeroBits hash % 2 ^ 32 := by
  have h := toNat_countZeros 0 hash
  rwa [UInt32.toNat_zero, Nat.zero_add] at h

/-- Leading zero bytes are eight zeros each. -/
theorem replicate_isPrefix_iff (n : ℕ) (hash : List UInt8) :
    List.replicate n 0 <+: hash ↔ 8 * n ≤ leadingZeroBits hash := by
  induction hash generalizing n with
  | nil =>
      rw [List.prefix_nil, List.replicate_eq_nil_iff, leadingZeroBits]
      omega
  | cons byte rest ih =>
      rw [leadingZeroBits]
      cases n with
      | zero => exact iff_of_true List.nil_prefix (Nat.zero_le _)
      | succ n =>
          rw [List.replicate_succ, List.cons_prefix_cons, ih]
          split_ifs with hbyte
          · rw [and_iff_right hbyte.symm]
            omega
          · have hlevel := leadingZeros_le hbyte
            exact iff_of_false (fun h => hbyte h.1.symm) (by omega)

/-- What the count is to say of the number. -/
def BoundsValue (hash : List UInt8) : Prop :=
  ∀ k, k ≤ 8 * hash.length →
    (k ≤ (leadingZeroBits32 hash).toNat ↔ beValue hash < 2 ^ (8 * hash.length - k))

theorem not_boundsValue {hash : List UInt8} (h : List.replicate (2 ^ 29) 0 <+: hash) :
    ¬ BoundsValue hash := by
  rw [replicate_isPrefix_iff] at h
  intro hbounds
  have hall := leadingZeroBits_le hash
  have hcount := (hbounds _ hall).mpr ((le_leadingZeroBits_iff hash hall).mp (Nat.le_refl _))
  rw [toNat_leadingZeroBits32] at hcount
  have hlt := Nat.mod_lt (leadingZeroBits hash) (Nat.two_pow_pos 32)
  omega

/-- The count says how large the number is exactly if the bytes do not start with so many
zeros that it overflows. -/
theorem boundsValue_iff (hash : List UInt8) :
    BoundsValue hash ↔ ¬ List.replicate (2 ^ 29) 0 <+: hash := by
  constructor
  · exact fun h hzeros => not_boundsValue hzeros h
  · intro h k hk
    rw [replicate_isPrefix_iff] at h
    rw [toNat_leadingZeroBits32, Nat.mod_eq_of_lt (by omega)]
    exact le_leadingZeroBits_iff hash hk

/-- Of half a gibibyte of zeros none is counted. -/
theorem zeros_not_boundsValue : ¬ BoundsValue (List.replicate (2 ^ 29) 0) :=
  not_boundsValue (List.prefix_refl _)

end Voxply.Identity
