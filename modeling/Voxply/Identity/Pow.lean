/-
# Proof of work

A key's security level is the number of leading zero bits of the SHA-256 digest
of its hexadecimal text followed by an eight-byte nonce.  The digest function
comes from a library and is a parameter.
-/

import Voxply.Identity.Signature
import Voxply.Math.Encoding

namespace Voxply.Identity

open Voxply.Math

/-- `u8::leading_zeros`. -/
def leadingZeros (byte : UInt8) : ℕ :=
  if byte = 0 then 8 else 7 - Nat.log2 byte.toNat

/-- `leading_zero_bits`: stop at the first byte that is not zero. -/
def leadingZeroBits : List UInt8 → ℕ
  | [] => 0
  | byte :: rest => if byte = 0 then 8 + leadingZeroBits rest else leadingZeros byte

/-- `hash_level`. -/
def hashLevel (sha256 : List UInt8 → List UInt8) (publicKeyHex : String) (nonce : UInt64) : ℕ :=
  leadingZeroBits (sha256 (asBytes publicKeyHex ++ leBytes 8 nonce.toNat))

/-- `verify_security_level`. -/
def verifySecurityLevel (sha256 : List UInt8 → List UInt8) (publicKeyHex : String)
    (nonce : UInt64) (claimedLevel : ℕ) : Bool :=
  claimedLevel = 0 || claimedLevel ≤ hashLevel sha256 publicKeyHex nonce

end Voxply.Identity
