/-
# Hexadecimal strings and Ed25519 signatures

Keys and signatures travel as hexadecimal text.  The codec below follows the
`hex` crate: two digits a byte, either case accepted on the way in, lower case
on the way out.  The signature scheme itself is not part of the repository and
is taken as a parameter; `verifySignature` is the repository's own wrapper
around it, with the length checks and messages it performs before the curve
arithmetic starts.
-/

import Mathlib.Data.List.Basic
import Mathlib.Tactic.Common

namespace Voxply.Identity

/-- The UTF-8 bytes of a string, as `str::as_bytes` gives them. -/
def asBytes (s : String) : List UInt8 :=
  s.toByteArray.data.toList

@[simp]
theorem length_asBytes (s : String) : (asBytes s).length = s.utf8ByteSize := by
  simp [asBytes]

theorem asBytes_injective : Function.Injective asBytes := by
  intro s t heq
  have harray : s.toByteArray.data = t.toByteArray.data := Array.toList_inj.mp heq
  exact String.toByteArray_inj.mp (ByteArray.ext harray)

/-! ## Hexadecimal text -/

/-- The value of one hexadecimal digit, given by its ASCII code. -/
def hexVal (c : UInt8) : Option UInt8 :=
  if 65 ≤ c ∧ c ≤ 70 then some (c - 65 + 10)
  else if 97 ≤ c ∧ c ≤ 102 then some (c - 97 + 10)
  else if 48 ≤ c ∧ c ≤ 57 then some (c - 48)
  else none

/-- Decode digit pairs; a dangling digit is an odd-length error. -/
def hexDecodeBytes : List UInt8 → Option (List UInt8)
  | [] => some []
  | [_] => none
  | high :: low :: rest =>
      match hexVal high, hexVal low, hexDecodeBytes rest with
      | some h, some l, some bytes => some ((h * 16 + l) :: bytes)
      | _, _, _ => none

/-- `hex::decode`. The position carried by a decoding error is not modelled:
every caller replaces it by a text of its own. -/
def hexDecode (s : String) : Option (List UInt8) :=
  hexDecodeBytes (asBytes s)

/-- The lower-case digit of a value below sixteen. -/
def hexDigit (n : ℕ) : Char :=
  if n < 10 then Char.ofNat (48 + n) else Char.ofNat (87 + n)

/-- The two digits of a byte. -/
def hexDigits (byte : UInt8) : List Char :=
  [hexDigit (byte.toNat / 16), hexDigit (byte.toNat % 16)]

/-- `hex::encode`. -/
def hexEncode (bytes : List UInt8) : String :=
  String.ofList (bytes.flatMap hexDigits)

theorem asBytes_ofList (chars : List Char) :
    asBytes (String.ofList chars) = chars.flatMap String.utf8EncodeChar := by
  simp [asBytes, List.utf8Encode]

/-- A text whose bytes are computed in one pass: those of `String.ofList` are appended one
by one, which takes long to evaluate. -/
def plainText (chars : List Char) : String :=
  ⟨⟨⟨chars.flatMap String.utf8EncodeChar⟩⟩, ⟨chars, ByteArray.ext (by simp [List.utf8Encode])⟩⟩

theorem ofList_eq_plainText (chars : List Char) : String.ofList chars = plainText chars := by
  apply asBytes_injective
  rw [asBytes_ofList]
  rfl

/-- For literals, whose characters are found by unification. -/
theorem eq_plainText {s : String} {chars : List Char} (h : s = String.ofList chars) :
    s = plainText chars := by
  rw [h, ofList_eq_plainText]

theorem plainText_append (first second : List Char) :
    plainText first ++ plainText second = plainText (first ++ second) := by
  rw [← ofList_eq_plainText, ← ofList_eq_plainText, ← ofList_eq_plainText, String.ofList_append]

/-- Every lower-case digit is a single ASCII byte with the expected value. -/
theorem hexVal_hexDigit : ∀ n : Fin 16,
    (String.utf8EncodeChar (hexDigit n)).map hexVal = [some (UInt8.ofNat n)] := by
  decide

/-- One encoded byte in front of encoded text decodes to that byte. -/
theorem hexDecodeBytes_hexDigits (byte : UInt8) (rest : List UInt8) :
    hexDecodeBytes ((hexDigits byte).flatMap String.utf8EncodeChar ++ rest) =
      (hexDecodeBytes rest).map (byte :: ·) := by
  have hbyte := byte.toNat_lt
  have hhigh := hexVal_hexDigit ⟨byte.toNat / 16, by omega⟩
  have hlow := hexVal_hexDigit ⟨byte.toNat % 16, by omega⟩
  rw [List.map_eq_singleton_iff] at hhigh hlow
  obtain ⟨high, hhighBytes, hhighVal⟩ := hhigh
  obtain ⟨low, hlowBytes, hlowVal⟩ := hlow
  have hvalue : UInt8.ofNat (byte.toNat / 16) * 16 + UInt8.ofNat (byte.toNat % 16) = byte := by
    apply UInt8.toNat_inj.mp
    simp only [UInt8.toNat_add, UInt8.toNat_mul, UInt8.toNat_ofNat', UInt8.reduceToNat]
    omega
  simp only [hexDigits, List.flatMap_cons, List.flatMap_nil, List.append_nil, hhighBytes,
    hlowBytes, List.cons_append, List.nil_append, hexDecodeBytes, hhighVal, hlowVal]
  cases hexDecodeBytes rest <;> simp [hvalue]

/-- Decoding undoes encoding. -/
@[simp]
theorem hexDecode_hexEncode (bytes : List UInt8) : hexDecode (hexEncode bytes) = some bytes := by
  rw [hexDecode, hexEncode, asBytes_ofList, List.flatMap_assoc]
  induction bytes with
  | nil => rfl
  | cons byte bytes ih =>
      rw [List.flatMap_cons, hexDecodeBytes_hexDigits, ih, Option.map_some]

theorem hexEncode_injective : Function.Injective hexEncode := by
  intro first second heq
  have hdecode := congrArg hexDecode heq
  simpa using hdecode

/-! ## Signatures -/

/-- The Ed25519 operations the program takes from its signature library. Keys,
messages and signatures are byte strings. -/
structure Ed25519 where
  /-- The public key of a signing key given by its seed. -/
  publicKey : List UInt8 → List UInt8
  /-- Sign a message with a seed. -/
  sign : List UInt8 → List UInt8 → List UInt8
  /-- Whether thirty-two bytes are the encoding of a curve point. -/
  fromBytes : List UInt8 → Bool
  /-- Verify a signature over a message under a public key. -/
  verify : List UInt8 → List UInt8 → List UInt8 → Bool

/-- What the program relies on when `seed` signs `message`: key and signature
have their documented sizes, the key is a curve point, and the signature
verifies for the signed message and for no other. -/
structure Ed25519.Binds (E : Ed25519) (seed message : List UInt8) : Prop where
  length_publicKey : (E.publicKey seed).length = 32
  fromBytes_publicKey : E.fromBytes (E.publicKey seed) = true
  length_sign : (E.sign seed message).length = 64
  verify_sign : E.verify (E.publicKey seed) message (E.sign seed message) = true
  eq_of_verify_sign : ∀ other,
    E.verify (E.publicKey seed) other (E.sign seed message) = true → other = message

/-- A signature made with the signature library, recorded as text. -/
structure RecordedSignature where
  seed : List UInt8
  publicKeyHex : String
  message : List UInt8
  signatureHex : String

/-- The scheme as far as recorded signatures tell, for evaluating the model on
concrete input. -/
def Ed25519.ofRecorded (recorded : List RecordedSignature) : Ed25519 where
  publicKey seed :=
    ((recorded.find? (·.seed = seed)).bind fun x => hexDecode x.publicKeyHex).getD []
  sign seed message :=
    ((recorded.find? fun x => x.seed = seed ∧ x.message = message).bind
      fun x => hexDecode x.signatureHex).getD []
  fromBytes key := recorded.any fun x => hexDecode x.publicKeyHex = some key
  verify key message signature := recorded.any fun x =>
    x.message = message ∧ hexDecode x.publicKeyHex = some key ∧
      hexDecode x.signatureHex = some signature

/-- A recorded signature binds its message if the other records of its seed are of the same key
and of other messages, and no other record has the same signature. -/
theorem Ed25519.binds_ofRecorded (before : List RecordedSignature) (x : RecordedSignature)
    (after : List RecordedSignature) (hkey : (hexDecode x.publicKeyHex).map List.length = some 32)
    (hsignature : (hexDecode x.signatureHex).map List.length = some 64)
    (hseed : ∀ y ∈ before ++ after, y.seed = x.seed →
      y.publicKeyHex = x.publicKeyHex ∧ y.message ≠ x.message)
    (honly : ∀ y ∈ before ++ after, hexDecode y.signatureHex ≠ hexDecode x.signatureHex) :
    (Ed25519.ofRecorded (before ++ x :: after)).Binds x.seed x.message := by
  have hmem : x ∈ before ++ x :: after := List.mem_append_right _ List.mem_cons_self
  have hcases : ∀ y ∈ before ++ x :: after, y = x ∨ y ∈ before ++ after := by
    intro y hy
    simpa [or_left_comm] using hy
  obtain ⟨key, hkey, hkeyLength⟩ := Option.map_eq_some_iff.mp hkey
  obtain ⟨signature, hsignature, hlength⟩ := Option.map_eq_some_iff.mp hsignature
  have hpublic : (Ed25519.ofRecorded (before ++ x :: after)).publicKey x.seed = key := by
    cases hfind : (before ++ x :: after).find? (fun y => y.seed = x.seed) with
    | none => exact absurd (decide_eq_true rfl) (List.find?_eq_none.mp hfind x hmem)
    | some y =>
        have hsame : y.publicKeyHex = x.publicKeyHex := by
          rcases hcases y (List.mem_of_find?_eq_some hfind) with rfl | hother
          · rfl
          · have hmatch := List.find?_some hfind
            exact (hseed y hother (of_decide_eq_true hmatch)).1
        simp only [ofRecorded, hfind, Option.bind_some, hsame, hkey, Option.getD_some]
  have hsign : (Ed25519.ofRecorded (before ++ x :: after)).sign x.seed x.message = signature := by
    cases hfind : (before ++ x :: after).find?
        (fun y => y.seed = x.seed ∧ y.message = x.message) with
    | none => exact absurd (decide_eq_true ⟨rfl, rfl⟩) (List.find?_eq_none.mp hfind x hmem)
    | some y =>
        have hfound : y = x := by
          have hmatch := List.find?_some hfind
          obtain ⟨hsame, hmessage⟩ := of_decide_eq_true hmatch
          refine (hcases y (List.mem_of_find?_eq_some hfind)).resolve_right fun hother => ?_
          exact (hseed y hother hsame).2 hmessage
        simp only [ofRecorded, hfind, hfound, Option.bind_some, hsignature, Option.getD_some]
  refine ⟨hpublic ▸ hkeyLength, ?_, hsign ▸ hlength, ?_, fun other hverify => ?_⟩
  · rw [hpublic]
    exact List.any_eq_true.mpr ⟨x, hmem, decide_eq_true hkey⟩
  · rw [hpublic, hsign]
    exact List.any_eq_true.mpr ⟨x, hmem, decide_eq_true ⟨rfl, hkey, hsignature⟩⟩
  · rw [hpublic, hsign] at hverify
    obtain ⟨y, hy, hmatch⟩ := List.any_eq_true.mp hverify
    obtain ⟨rfl, -, hverified⟩ := of_decide_eq_true hmatch
    rcases hcases y hy with rfl | hother
    · rfl
    · exact absurd (hverified.trans hsignature.symm) (honly y hother)

/-- Recorded signatures of different texts over different messages all bind. -/
theorem Ed25519.binds_ofRecorded_mem {recorded : List RecordedSignature}
    (hlengths : ∀ x ∈ recorded, (hexDecode x.publicKeyHex).map List.length = some 32 ∧
      (hexDecode x.signatureHex).map List.length = some 64)
    (hseeds : recorded.Pairwise fun x y => x.seed = y.seed →
      x.publicKeyHex = y.publicKeyHex ∧ x.message ≠ y.message)
    (hsignatures : recorded.Pairwise fun x y =>
      hexDecode x.signatureHex ≠ hexDecode y.signatureHex)
    {x : RecordedSignature} (hx : x ∈ recorded) :
    (Ed25519.ofRecorded recorded).Binds x.seed x.message := by
  obtain ⟨before, after, rfl⟩ := List.append_of_mem hx
  rw [List.pairwise_append, List.pairwise_cons] at hseeds hsignatures
  obtain ⟨-, ⟨hseedAfter, -⟩, hseedBefore⟩ := hseeds
  obtain ⟨-, ⟨hafter, -⟩, hbefore⟩ := hsignatures
  refine binds_ofRecorded before x after (hlengths x hx).1 (hlengths x hx).2 ?_ ?_ <;>
    intro y hy <;> rcases List.mem_append.mp hy with hy | hy
  · exact hseedBefore y hy x List.mem_cons_self
  · exact fun hseed => (hseedAfter y hy hseed.symm).imp Eq.symm Ne.symm
  · exact hbefore y hy x List.mem_cons_self
  · exact (hafter y hy).symm

/-- `verify_signature`: decode the key, check both lengths and the curve point,
then verify. -/
def verifySignature (E : Ed25519) (publicKeyHex : String)
    (message signatureBytes : List UInt8) : Except String Unit :=
  match hexDecode publicKeyHex with
  | none => .error "Invalid public key hex"
  | some pubArray =>
      if pubArray.length ≠ 32 then .error "Public key must be 32 bytes"
      else if ¬ E.fromBytes pubArray then .error "Invalid public key bytes"
      else if signatureBytes.length ≠ 64 then .error "Signature must be 64 bytes"
      else if ¬ E.verify pubArray message signatureBytes then
        .error "Signature verification failed"
      else .ok ()

/-- Acceptance means that the key text is a curve point and the curve check
passed on a signature of the right size. -/
theorem verifySignature_eq_ok_iff {E : Ed25519} {publicKeyHex : String}
    {message signatureBytes : List UInt8} :
    verifySignature E publicKeyHex message signatureBytes = .ok () ↔
      ∃ key, hexDecode publicKeyHex = some key ∧ key.length = 32 ∧
        E.fromBytes key = true ∧ signatureBytes.length = 64 ∧
        E.verify key message signatureBytes = true := by
  unfold verifySignature
  cases hexDecode publicKeyHex with
  | none => simp
  | some key =>
      simp only [Option.some.injEq, exists_eq_left']
      split_ifs <;> simp_all

/-- A signature made with a signing key is accepted, under any spelling of its
public key, for exactly the message that was signed. -/
theorem verifySignature_sign_iff {E : Ed25519} {seed message other : List UInt8}
    {publicKeyHex : String} (binds : E.Binds seed message)
    (hkey : hexDecode publicKeyHex = some (E.publicKey seed)) :
    verifySignature E publicKeyHex other (E.sign seed message) = .ok () ↔
      other = message := by
  rw [verifySignature_eq_ok_iff, hkey]
  constructor
  · rintro ⟨key, heq, -, -, -, hverify⟩
    obtain rfl := Option.some.inj heq
    exact binds.eq_of_verify_sign other hverify
  · rintro rfl
    exact ⟨_, rfl, binds.length_publicKey, binds.fromBytes_publicKey,
      binds.length_sign, binds.verify_sign⟩

/-- `check_sig`: the shared tail of every record's `verify`. -/
def checkSig (E : Ed25519) (publicKeyHex : String) (signingBytes : List UInt8)
    (signatureHex : String) : Except String Unit :=
  match hexDecode signatureHex with
  | none => .error "Invalid signature hex"
  | some signature => verifySignature E publicKeyHex signingBytes signature

/-- A signature is valid for one message only. -/
def Ed25519.SignsOnce (E : Ed25519) : Prop :=
  ∀ key message message' signature, E.verify key message signature = true →
    E.verify key message' signature = true → message = message'

theorem Ed25519.SignsOnce.eq_of_checkSig {E : Ed25519} (h : E.SignsOnce)
    {publicKeyHex signatureHex : String} {message message' : List UInt8}
    (hfirst : checkSig E publicKeyHex message signatureHex = .ok ())
    (hsecond : checkSig E publicKeyHex message' signatureHex = .ok ()) : message = message' := by
  unfold checkSig at hfirst hsecond
  cases hsignature : hexDecode signatureHex with
  | none =>
      rw [hsignature] at hfirst
      cases hfirst
  | some signature =>
      rw [hsignature] at hfirst hsecond
      obtain ⟨key, hkey, -, -, -, hverify⟩ := verifySignature_eq_ok_iff.mp hfirst
      obtain ⟨key', hkey', -, -, -, hverify'⟩ := verifySignature_eq_ok_iff.mp hsecond
      obtain rfl := Option.some.inj (hkey.symm.trans hkey')
      exact h key message message' signature hverify hverify'

/-- One recorded signature is a signature of one message. -/
theorem Ed25519.signsOnce_ofRecorded (recorded : RecordedSignature) :
    (Ed25519.ofRecorded [recorded]).SignsOnce := by
  intro key message message' signature hfirst hsecond
  simp only [ofRecorded, List.any_cons, List.any_nil, Bool.or_false, decide_eq_true_eq]
    at hfirst hsecond
  exact hfirst.1.symm.trans hsecond.1

end Voxply.Identity
