/-
# Wrapped blob keys

A blob key is wrapped for the owner of an Ed25519 key: it is encrypted under a key that is
derived from a Diffie–Hellman exchange between a fresh key and the owner's, both taken to the
other form of the curve.  The fresh public key, the nonce and the ciphertext are written one
after the other, in hexadecimal digits.

Whoever unwraps cuts the text up again and derives the same key from the seed.  What is refused
is refused with an error; cutting up never goes past the end.
-/

import Voxply.Identity.Signature
import Mathlib.Tactic.Common

namespace Voxply.Identity

/-! ## Bytes -/

/-- `[u8; n]`. -/
abbrev Bytes (n : ℕ) : Type := { bytes : List UInt8 // bytes.length = n }

/-- What ends a computation early. -/
inductive Failure where
  | panicked
  /-- The error that is returned, up to the text of the library. -/
  | refused (message : String)
  deriving DecidableEq

/-- `bytes[first..last]`. -/
def slice (bytes : List UInt8) (first last : ℕ) : Except Failure (List UInt8) :=
  if first ≤ last ∧ last ≤ bytes.length then .ok ((bytes.take last).drop first)
  else .error .panicked

/-- `try_into`. -/
def tryInto (n : ℕ) (bytes : List UInt8) : Option (Bytes n) :=
  if h : bytes.length = n then some ⟨bytes, h⟩ else none

/-- `bytes[first..first + n].try_into().unwrap()`. -/
def field (bytes : List UInt8) (first n : ℕ) : Except Failure (Bytes n) := do
  let part ← slice bytes first (first + n)
  (tryInto n part).elim (.error .panicked) .ok

/-! ## The two functions -/

/-- The operations that the program takes from its libraries. -/
structure EciesCrates where
  /-- The Ed25519 public key of a seed. -/
  publicKey : Bytes 32 → Bytes 32
  /-- The Montgomery form of a compressed point, if it is one. -/
  toMontgomery : Bytes 32 → Option (Bytes 32)
  sha512 : List UInt8 → Bytes 64
  /-- The X25519 public key of a secret. -/
  x25519Public : Bytes 32 → Bytes 32
  diffieHellman : Bytes 32 → Bytes 32 → Bytes 32
  /-- HKDF-SHA256 with its salt, key material and info, expanded to a key. -/
  hkdf : List UInt8 → List UInt8 → List UInt8 → Bytes 32
  /-- AES-256-GCM: the ciphertext with its tag. -/
  encrypt : Bytes 32 → Bytes 12 → List UInt8 → List UInt8
  decrypt : Bytes 32 → Bytes 12 → List UInt8 → Option (List UInt8)

def eciesInfo : List UInt8 := asBytes "voxply/ecies/v1"

/-- `wrap_blob_key`, with the ephemeral secret and the nonce that are drawn. -/
def wrapBlobKey (lib : EciesCrates) (ephPriv : Bytes 32) (nonceBytes : Bytes 12)
    (blobKey : Bytes 32) (recipientEd25519PubkeyHex : String) : Except Failure String := do
  let pubkeyBytes ← (hexDecode recipientEd25519PubkeyHex).elim
    (.error (.refused "invalid pubkey hex: ")) .ok
  let pubkeyBytes ← (tryInto 32 pubkeyBytes).elim
    (.error (.refused "pubkey must be 32 bytes")) .ok
  let x25519Pub ← (lib.toMontgomery pubkeyBytes).elim
    (.error (.refused "invalid ed25519 point")) .ok
  let ephPub := lib.x25519Public ephPriv
  let shared := lib.diffieHellman ephPriv x25519Pub
  let encKey := lib.hkdf ephPub.1 shared.1 eciesInfo
  let ciphertext := lib.encrypt encKey nonceBytes blobKey.1
  let out := ephPub.1 ++ nonceBytes.1 ++ ciphertext
  -- `debug_assert_eq!(out.len(), 92)`
  if out.length ≠ 92 then .error .panicked else .ok (hexEncode out)

/-- The scalar of the first half of a hash: `&= 248`, `&= 127`, `|= 64`. -/
def clamp (hash : Bytes 64) : Bytes 32 :=
  ⟨(((hash.1.take 32).modify 0 (· &&& 248)).modify 31 (· &&& 127)).modify 31 (· ||| 64), by
    simp [hash.2]⟩

/-- `unwrap_blob_key`. -/
def unwrapBlobKey (lib : EciesCrates) (wrappedHex : String) (recipientEd25519Seed : Bytes 32) :
    Except Failure (Bytes 32) := do
  let bytes ← (hexDecode wrappedHex).elim (.error (.refused "invalid wrapped_hex: ")) .ok
  if bytes.length ≠ 92 then
    .error (.refused ("wrapped blob key must be 92 bytes, got " ++ toString bytes.length))
  else do
    let ephPubBytes ← field bytes 0 32
    let nonceBytes ← field bytes 32 12
    let ct ← slice bytes 44 92
    let x25519Priv := clamp (lib.sha512 recipientEd25519Seed.1)
    let shared := lib.diffieHellman x25519Priv ephPubBytes
    let encKey := lib.hkdf ephPubBytes.1 shared.1 eciesInfo
    let plaintext ← (lib.decrypt encKey nonceBytes ct).elim
      (.error (.refused "AES-GCM decrypt: ")) .ok
    (tryInto 32 plaintext).elim (.error (.refused "decrypted plaintext is not 32 bytes")) .ok

/-- What the program relies on: the key of a seed is a point; the exchange comes to the same
from both sides; and what is decrypted is what was encrypted under the same key and nonce, and
nothing else is. -/
structure EciesCrates.Sound (lib : EciesCrates) : Prop where
  point : ∀ seed, ∃ montgomery, lib.toMontgomery (lib.publicKey seed) = some montgomery
  commutes : ∀ seed secret montgomery, lib.toMontgomery (lib.publicKey seed) = some montgomery →
    lib.diffieHellman secret montgomery =
      lib.diffieHellman (clamp (lib.sha512 seed.1)) (lib.x25519Public secret)
  decrypt_iff : ∀ key nonce ciphertext plaintext,
    lib.decrypt key nonce ciphertext = some plaintext ↔
      ciphertext = lib.encrypt key nonce plaintext
  length_encrypt : ∀ key nonce plaintext,
    (lib.encrypt key nonce plaintext).length = plaintext.length + 16

/-! ## What is to hold -/

/-- A hexadecimal digit, in either case. -/
def isHexDigit (c : Char) : Bool :=
  '0' ≤ c ∧ c ≤ '9' ∨ 'a' ≤ c ∧ c ≤ 'f' ∨ 'A' ≤ c ∧ c ≤ 'F'

/-- A text of so many hexadecimal digits. -/
structure IsHex (n : ℕ) (text : String) : Prop where
  length : text.length = n
  digits : ∀ c ∈ text.toList, isHexDigit c = true

/-- The parts of a wrapped key. -/
structure WrappedKey where
  ephPub : Bytes 32
  nonce : Bytes 12
  ciphertext : Bytes 48

def WrappedKey.toBytes (wrapped : WrappedKey) : List UInt8 :=
  wrapped.ephPub.1 ++ wrapped.nonce.1 ++ wrapped.ciphertext.1

/-- The key that is derived from an ephemeral key and the secret that is shared through it. -/
def EciesCrates.encKey (lib : EciesCrates) (ephPub shared : Bytes 32) : Bytes 32 :=
  lib.hkdf ephPub.1 shared.1 eciesInfo

/-- The ciphertext was made under the key that the recipient shares with the ephemeral key. -/
def ProducedFor (lib : EciesCrates) (seed : Bytes 32) (text : String) : Prop :=
  ∃ wrapped : WrappedKey, hexDecode text = some wrapped.toBytes ∧
    ∃ plaintext, wrapped.ciphertext.1 = lib.encrypt (lib.encKey wrapped.ephPub
      (lib.diffieHellman (clamp (lib.sha512 seed.1)) wrapped.ephPub)) wrapped.nonce plaintext

/-- What is wrapped for the owner of a seed is unwrapped with the seed, and nothing else is. -/
structure WrapsRight (lib : EciesCrates) : Prop where
  opens : ∀ (blobKey seed ephPriv : Bytes 32) (nonce : Bytes 12), ∃ wrapped,
    wrapBlobKey lib ephPriv nonce blobKey (hexEncode (lib.publicKey seed).1) = .ok wrapped ∧
      IsHex 184 wrapped ∧ unwrapBlobKey lib wrapped seed = .ok blobKey
  refuses : ∀ text seed, ¬ IsHex 184 text ∨ ¬ ProducedFor lib seed text →
    ∃ message, unwrapBlobKey lib text seed = .error (.refused message)
  /-- With the ephemeral key of some secret, only what is wrapped with the secret is unwrapped. -/
  only : ∀ text seed blobKey ephPriv (wrapped : WrappedKey),
    unwrapBlobKey lib text seed = .ok blobKey → hexDecode text = some wrapped.toBytes →
      wrapped.ephPub = lib.x25519Public ephPriv →
        wrapBlobKey lib ephPriv wrapped.nonce blobKey (hexEncode (lib.publicKey seed).1) =
          .ok (hexEncode wrapped.toBytes)
  returns : ∀ text seed, unwrapBlobKey lib text seed ≠ .error .panicked
  wraps : ∀ ephPriv nonce blobKey pubkeyHex,
    wrapBlobKey lib ephPriv nonce blobKey pubkeyHex ≠ .error .panicked

/-! ## Hexadecimal text -/

/-- What is decoded consists of pairs of digits. -/
theorem hexDecodeBytes_eq_some {text bytes : List UInt8} (h : hexDecodeBytes text = some bytes) :
    text.length = 2 * bytes.length ∧ ∀ b ∈ text, (hexVal b).isSome = true := by
  induction text using hexDecodeBytes.induct generalizing bytes with
  | case1 =>
      cases h
      exact ⟨rfl, fun _ hb => absurd hb List.not_mem_nil⟩
  | case2 => cases h
  | case3 high low rest hi lo part hpart hlow hhigh ih =>
      simp only [hexDecodeBytes, hhigh, hlow, hpart, Option.some.injEq] at h
      subst h
      obtain ⟨hlength, hdigits⟩ := ih hpart
      constructor
      · simp only [List.length_cons]
        omega
      · simp only [List.forall_mem_cons, hhigh, hlow, Option.isSome_some, true_and]
        exact hdigits
  | case4 high low rest hnone ih =>
      cases hhigh : hexVal high with
      | none => simp [hexDecodeBytes, hhigh] at h
      | some hi =>
          cases hlow : hexVal low with
          | none => simp [hexDecodeBytes, hhigh, hlow] at h
          | some lo =>
              cases hpart : hexDecodeBytes rest with
              | none => simp [hexDecodeBytes, hhigh, hlow, hpart] at h
              | some part => exact absurd hpart (hnone hi lo part hhigh hlow)

/-- The digits are those of ASCII. -/
theorem hexVal_isSome_iff {b : UInt8} :
    (hexVal b).isSome = true ↔ 65 ≤ b.toNat ∧ b.toNat ≤ 70 ∨ 97 ≤ b.toNat ∧ b.toNat ≤ 102 ∨
      48 ≤ b.toNat ∧ b.toNat ≤ 57 := by
  unfold hexVal
  simp only [UInt8.le_iff_toNat_le, UInt8.reduceToNat]
  split_ifs with hupper hlower hdigit
  · simp [hupper]
  · simp [hlower]
  · simp [hdigit]
  · simp [hupper, hlower, hdigit]

theorem isHexDigit_iff {c : Char} :
    isHexDigit c = true ↔ 48 ≤ c.toNat ∧ c.toNat ≤ 57 ∨ 97 ≤ c.toNat ∧ c.toNat ≤ 102 ∨
      65 ≤ c.toNat ∧ c.toNat ≤ 70 := by
  rw [isHexDigit, decide_eq_true_iff]
  simp only [Char.le_def, UInt32.le_iff_toNat_le]
  rfl

/-- A character that is encoded in digits only is a digit, and takes one byte. -/
theorem isHexDigit_of_utf8 {c : Char}
    (h : ∀ b ∈ String.utf8EncodeChar c, (hexVal b).isSome = true) :
    (String.utf8EncodeChar c).length = 1 ∧ isHexDigit c = true := by
  rw [isHexDigit_iff]
  simp only [hexVal_isSome_iff] at h
  have hfirst : c.val.toNat ≤ 0x7f := by
    by_contra hlarge
    unfold String.utf8EncodeChar at h
    rw [if_neg hlarge] at h
    split_ifs at h with htwo hthree
    all_goals
      have hlead := h _ List.mem_cons_self
      simp only [UInt8.toNat_ofNat'] at hlead
      omega
  unfold String.utf8EncodeChar at h ⊢
  rw [if_pos hfirst] at h ⊢
  have hdigit := h _ List.mem_cons_self
  rw [UInt8.toNat_ofNat', Nat.mod_eq_of_lt (by omega)] at hdigit
  refine ⟨rfl, ?_⟩
  show 48 ≤ c.val.toNat ∧ c.val.toNat ≤ 57 ∨ 97 ≤ c.val.toNat ∧ c.val.toNat ≤ 102 ∨
    65 ≤ c.val.toNat ∧ c.val.toNat ≤ 70
  omega

/-- A text that is decoded consists of two digits for each byte. -/
theorem isHex_of_hexDecode {text : String} {bytes : List UInt8} (h : hexDecode text = some bytes) :
    IsHex (2 * bytes.length) text := by
  obtain ⟨hlength, hdigits⟩ := hexDecodeBytes_eq_some h
  have hbytes : asBytes text = text.toList.flatMap String.utf8EncodeChar := by
    rw [← asBytes_ofList, String.ofList_toList]
  rw [hbytes] at hlength hdigits
  have hsingle : ∀ c ∈ text.toList,
      (String.utf8EncodeChar c).length = 1 ∧ isHexDigit c = true := by
    intro c hc
    apply isHexDigit_of_utf8
    intro b hb
    exact hdigits b (List.mem_flatMap.mpr ⟨c, hc, hb⟩)
  constructor
  · rw [← hlength, List.length_flatMap, List.map_congr_left fun c hc => (hsingle c hc).1,
      ← String.length_toList]
    simp
  · exact fun c hc => (hsingle c hc).2

/-- What is encoded consists of two digits for each byte. -/
theorem isHex_hexEncode (bytes : List UInt8) : IsHex (2 * bytes.length) (hexEncode bytes) :=
  isHex_of_hexDecode (hexDecode_hexEncode bytes)

/-! ## Cutting up -/

/-- The part between two others. -/
theorem slice_append {before part rest : List UInt8} {first last : ℕ}
    (hfirst : before.length = first) (hlast : first + part.length = last) :
    slice (before ++ part ++ rest) first last = .ok part := by
  subst hfirst hlast
  rw [slice, if_pos (by simp), ← List.length_append, List.take_left, List.drop_left]

theorem tryInto_of_length {n : ℕ} {bytes : List UInt8} (h : bytes.length = n) :
    tryInto n bytes = some ⟨bytes, h⟩ :=
  dif_pos h

theorem field_append {before rest : List UInt8} {first n : ℕ} (part : Bytes n)
    (hfirst : before.length = first) : field (before ++ part.1 ++ rest) first n = .ok part := by
  rw [field, slice_append hfirst (congrArg (first + ·) part.2)]
  show (tryInto n part.1).elim _ _ = _
  rw [tryInto_of_length part.2]
  rfl

section Unwrapping

variable {lib : EciesCrates} {text : String} {seed : Bytes 32}

/-- The key that the recipient derives. -/
def EciesCrates.recipientKey (lib : EciesCrates) (seed ephPub : Bytes 32) : Bytes 32 :=
  lib.encKey ephPub (lib.diffieHellman (clamp (lib.sha512 seed.1)) ephPub)

/-- The rest of `unwrapBlobKey` once the bytes are cut up. -/
def WrappedKey.unseal (wrapped : WrappedKey) (lib : EciesCrates) (seed : Bytes 32) :
    Except Failure (Bytes 32) := do
  let plaintext ← (lib.decrypt (lib.recipientKey seed wrapped.ephPub) wrapped.nonce
    wrapped.ciphertext.1).elim (.error (.refused "AES-GCM decrypt: ")) .ok
  (tryInto 32 plaintext).elim (.error (.refused "decrypted plaintext is not 32 bytes")) .ok

@[simp]
theorem WrappedKey.length_toBytes (wrapped : WrappedKey) : wrapped.toBytes.length = 92 := by
  simp [toBytes, wrapped.ephPub.2, wrapped.nonce.2, wrapped.ciphertext.2]

/-- Ninety-two bytes are a wrapped key. -/
theorem exists_wrappedKey {bytes : List UInt8} (h : bytes.length = 92) :
    ∃ wrapped : WrappedKey, bytes = wrapped.toBytes := by
  refine ⟨⟨⟨bytes.take 32, by simp [h]⟩, ⟨(bytes.drop 32).take 12, by simp [h]⟩,
    ⟨(bytes.drop 32).drop 12, by simp [h]⟩⟩, ?_⟩
  rw [WrappedKey.toBytes, List.append_assoc, List.take_append_drop, List.take_append_drop]

/-- A wrapped key is cut up and opened. -/
theorem unwrapBlobKey_of_toBytes {wrapped : WrappedKey}
    (hdecode : hexDecode text = some wrapped.toBytes) :
    unwrapBlobKey lib text seed = wrapped.unseal lib seed := by
  have hephPub : field wrapped.toBytes 0 32 = .ok wrapped.ephPub := by
    rw [WrappedKey.toBytes, List.append_assoc]
    exact field_append wrapped.ephPub List.length_nil
  have hnonce : field wrapped.toBytes 32 12 = .ok wrapped.nonce :=
    field_append wrapped.nonce wrapped.ephPub.2
  have hct : slice wrapped.toBytes 44 92 = .ok wrapped.ciphertext.1 := by
    have hbefore : (wrapped.ephPub.1 ++ wrapped.nonce.1).length = 44 := by
      rw [List.length_append, wrapped.ephPub.2, wrapped.nonce.2]
    have hslice : slice (wrapped.ephPub.1 ++ wrapped.nonce.1 ++ wrapped.ciphertext.1 ++ []) 44 92 =
        .ok wrapped.ciphertext.1 :=
      slice_append hbefore (congrArg (44 + ·) wrapped.ciphertext.2)
    rw [List.append_nil] at hslice
    exact hslice
  rw [unwrapBlobKey, hdecode]
  simp only [Option.elim_some, Except.bind, bind]
  rw [if_neg (by simp), hephPub, hnonce, hct]
  rfl

/-- A wrapped key opens to what its ciphertext was made from, under the recipient's key. -/
theorem unseal_eq_ok_iff (h : lib.Sound) {wrapped : WrappedKey} {blobKey : Bytes 32} :
    wrapped.unseal lib seed = .ok blobKey ↔ wrapped.ciphertext.1 =
      lib.encrypt (lib.recipientKey seed wrapped.ephPub) wrapped.nonce blobKey.1 := by
  rw [← h.decrypt_iff, WrappedKey.unseal]
  cases hplaintext : lib.decrypt (lib.recipientKey seed wrapped.ephPub) wrapped.nonce
      wrapped.ciphertext.1 with
  | none => exact iff_of_false (fun hok => by cases hok) (fun hsome => by cases hsome)
  | some plaintext =>
      -- The ciphertext has the length of its plaintext and a tag.
      have hlength : plaintext.length = 32 := by
        have hct := congrArg List.length ((h.decrypt_iff _ _ _ _).mp hplaintext)
        rw [h.length_encrypt, wrapped.ciphertext.2] at hct
        omega
      show (tryInto 32 plaintext).elim _ _ = _ ↔ _
      rw [tryInto_of_length hlength, Option.elim_some, Except.ok.injEq, Option.some.injEq,
        Subtype.ext_iff]

/-- Any other ciphertext is refused. -/
theorem unseal_of_not_produced (h : lib.Sound) {wrapped : WrappedKey}
    (hnot : ∀ plaintext, wrapped.ciphertext.1 ≠
      lib.encrypt (lib.recipientKey seed wrapped.ephPub) wrapped.nonce plaintext) :
    wrapped.unseal lib seed = .error (.refused "AES-GCM decrypt: ") := by
  have hnone : lib.decrypt (lib.recipientKey seed wrapped.ephPub) wrapped.nonce
      wrapped.ciphertext.1 = none := by
    rw [Option.eq_none_iff_forall_ne_some]
    intro plaintext hplaintext
    exact hnot plaintext ((h.decrypt_iff _ _ _ _).mp hplaintext)
  rw [WrappedKey.unseal, hnone]
  rfl

theorem unseal_ne_panicked (wrapped : WrappedKey) : wrapped.unseal lib seed ≠ .error .panicked := by
  rw [WrappedKey.unseal]
  cases lib.decrypt (lib.recipientKey seed wrapped.ephPub) wrapped.nonce wrapped.ciphertext.1 with
  | none => exact fun heq => by cases heq
  | some plaintext =>
      show (tryInto 32 plaintext).elim _ _ ≠ _
      cases tryInto 32 plaintext with
      | none => exact fun heq => by cases heq
      | some blobKey => exact fun heq => by cases heq

/-- A text is refused before anything is cut up, or holds a wrapped key. -/
theorem unwrapBlobKey_cases (lib : EciesCrates) (text : String) (seed : Bytes 32) :
    (∃ message, unwrapBlobKey lib text seed = .error (.refused message)) ∨
      ∃ wrapped : WrappedKey, hexDecode text = some wrapped.toBytes ∧
        unwrapBlobKey lib text seed = wrapped.unseal lib seed := by
  cases hdecode : hexDecode text with
  | none =>
      left
      refine ⟨"invalid wrapped_hex: ", ?_⟩
      rw [unwrapBlobKey, hdecode]
      rfl
  | some bytes =>
      by_cases hlength : bytes.length = 92
      · right
        obtain ⟨wrapped, rfl⟩ := exists_wrappedKey hlength
        exact ⟨wrapped, rfl, unwrapBlobKey_of_toBytes hdecode⟩
      · left
        refine ⟨"wrapped blob key must be 92 bytes, got " ++ toString bytes.length, ?_⟩
        rw [unwrapBlobKey, hdecode]
        simp only [Option.elim_some, Except.bind, bind]
        rw [if_pos hlength]

end Unwrapping

/-! ## Wrapping -/

section Wrapping

variable {lib : EciesCrates}

/-- What is wrapped for the owner of a seed. -/
def EciesCrates.Sound.sealed (h : lib.Sound) (ephPriv : Bytes 32) (nonce : Bytes 12)
    (blobKey seed : Bytes 32) : WrappedKey where
  ephPub := lib.x25519Public ephPriv
  nonce := nonce
  ciphertext := ⟨lib.encrypt (lib.recipientKey seed (lib.x25519Public ephPriv)) nonce blobKey.1, by
    rw [h.length_encrypt, blobKey.2]⟩

/-- Both sides derive the same key. -/
theorem wrapBlobKey_eq (h : lib.Sound) (ephPriv : Bytes 32) (nonce : Bytes 12)
    (blobKey seed : Bytes 32) :
    wrapBlobKey lib ephPriv nonce blobKey (hexEncode (lib.publicKey seed).1) =
      .ok (hexEncode (h.sealed ephPriv nonce blobKey seed).toBytes) := by
  obtain ⟨montgomery, hpoint⟩ := h.point seed
  have hlength := (h.sealed ephPriv nonce blobKey seed).length_toBytes
  rw [wrapBlobKey, hexDecode_hexEncode]
  simp only [Option.elim_some, Except.bind, bind, tryInto_of_length (lib.publicKey seed).2, hpoint,
    h.commutes seed ephPriv montgomery hpoint]
  exact if_neg (not_not_intro hlength)

theorem wrapBlobKey_ne_panicked (h : lib.Sound) (ephPriv : Bytes 32) (nonce : Bytes 12)
    (blobKey : Bytes 32) (pubkeyHex : String) :
    wrapBlobKey lib ephPriv nonce blobKey pubkeyHex ≠ .error .panicked := by
  rw [wrapBlobKey]
  cases hexDecode pubkeyHex with
  | none => exact fun heq => by cases heq
  | some bytes =>
      simp only [Option.elim_some, Except.bind, bind]
      cases tryInto 32 bytes with
      | none => exact fun heq => by cases heq
      | some key =>
          cases hpoint : lib.toMontgomery key with
          | none =>
              simp only [Option.elim_some, hpoint]
              exact fun heq => by cases heq
          | some montgomery =>
              simp only [Option.elim_some, hpoint]
              rw [if_neg]
              · exact fun heq => by cases heq
              · simp [h.length_encrypt, blobKey.2, nonce.2, (lib.x25519Public ephPriv).2]

/-- Wrapping and unwrapping do what they are for. -/
theorem wrapsRight (lib : EciesCrates) (h : lib.Sound) : WrapsRight lib where
  opens blobKey seed ephPriv nonce := by
    refine ⟨_, wrapBlobKey_eq h ephPriv nonce blobKey seed, ?_, ?_⟩
    · have hhex := isHex_hexEncode (h.sealed ephPriv nonce blobKey seed).toBytes
      rw [WrappedKey.length_toBytes] at hhex
      exact hhex
    · rw [unwrapBlobKey_of_toBytes (hexDecode_hexEncode _), unseal_eq_ok_iff h]
      rfl
  refuses text seed hbad := by
    rcases unwrapBlobKey_cases lib text seed with hrefused | ⟨wrapped, hdecode, hunseal⟩
    · exact hrefused
    · have hhex := isHex_of_hexDecode hdecode
      rw [WrappedKey.length_toBytes] at hhex
      rcases hbad with hnothex | hnotfor
      · exact absurd hhex hnothex
      · refine ⟨"AES-GCM decrypt: ", ?_⟩
        rw [hunseal]
        apply unseal_of_not_produced h
        intro plaintext hmade
        exact hnotfor ⟨wrapped, hdecode, plaintext, hmade⟩
  only text seed blobKey ephPriv wrapped hok hdecode hephPub := by
    rw [unwrapBlobKey_of_toBytes hdecode, unseal_eq_ok_iff h] at hok
    rw [wrapBlobKey_eq h]
    obtain ⟨ephPub, nonce, ciphertext⟩ := wrapped
    subst hephPub
    have hsealed : h.sealed ephPriv nonce blobKey seed =
        ⟨lib.x25519Public ephPriv, nonce, ciphertext⟩ :=
      congrArg (WrappedKey.mk _ nonce) (Subtype.ext hok.symm)
    rw [hsealed]
  returns text seed := by
    rcases unwrapBlobKey_cases lib text seed with ⟨message, hrefused⟩ | ⟨wrapped, -, hunseal⟩
    · rw [hrefused]
      exact fun heq => by cases heq
    · rw [hunseal]
      exact unseal_ne_panicked wrapped
  wraps := wrapBlobKey_ne_panicked h

end Wrapping

/-! ## Recorded values -/

def ownerSeed : Bytes 32 := ⟨.replicate 32 7, List.length_replicate⟩

def ownerKey : Bytes 32 :=
  ⟨(hexDecode "ea4a6c63e29c520abef5507b132ec5f9954776aebebe7b92421eea691446d22c").getD [],
    by decide +kernel⟩

def ownerHash : Bytes 64 :=
  ⟨(hexDecode ("2fad39fefd7fa3e200a9c626eef599e61a2d055c48a8288a4e7e4c4bca3928f8" ++
    "9c7d6db3506d65dbac7c052aaee4857425210c9bc54030c826e54055983452a5")).getD [],
    by decide +kernel⟩

def ownerMontgomery : Bytes 32 :=
  ⟨(hexDecode "761d88ec830413919dfe9d4d1d56f17e653c8c994082df5b137b90a0ae6edf74").getD [],
    by decide +kernel⟩

def ephSecret : Bytes 32 := ⟨.replicate 32 9, List.length_replicate⟩

def ephPublic : Bytes 32 :=
  ⟨(hexDecode "57db4b359f23ae5e146e4e2512056704722506348c150c14753d0c933d04d421").getD [],
    by decide +kernel⟩

def sharedSecret : Bytes 32 :=
  ⟨(hexDecode "7ff5e718a2c80002b83ed90f42e2d0ff9418d7ded41b3b4c1dd0d501d3c1ea16").getD [],
    by decide +kernel⟩

def derivedKey : Bytes 32 :=
  ⟨(hexDecode "c8adc72c85001b2cb63a258852a9d962d7749df0744272912b0966ad7378bf40").getD [],
    by decide +kernel⟩

def drawnNonce : Bytes 12 := ⟨.replicate 12 1, List.length_replicate⟩

def someBlobKey : Bytes 32 := ⟨.replicate 32 3, List.length_replicate⟩

def sealedBlobKey : Bytes 48 :=
  ⟨(hexDecode ("c6930b96b20ee5e75e9759a934bd52408530bf37e775b0bda9671ff3f490ae8f" ++
    "a8975c427641a155f80719b5777a194f")).getD [], by decide +kernel⟩

def zeros (n : ℕ) : Bytes n := ⟨.replicate n 0, List.length_replicate⟩

/-- The recorded encryption. -/
def Recorded (key : Bytes 32) (nonce : Bytes 12) (plaintext : List UInt8) : Prop :=
  key = derivedKey ∧ nonce = drawnNonce ∧ plaintext = someBlobKey.1

instance (key : Bytes 32) (nonce : Bytes 12) (plaintext : List UInt8) :
    Decidable (Recorded key nonce plaintext) :=
  inferInstanceAs (Decidable (_ ∧ _ ∧ _))

/-- The libraries as far as the recorded values tell. -/
def recordedCrates : EciesCrates where
  publicKey seed := if seed = ownerSeed then ownerKey else zeros 32
  toMontgomery key := some (if key = ownerKey then ownerMontgomery else zeros 32)
  sha512 bytes := if bytes = ownerSeed.1 then ownerHash else zeros 64
  x25519Public secret := if secret = ephSecret then ephPublic else zeros 32
  diffieHellman secret key :=
    if secret = ephSecret ∧ key = ownerMontgomery ∨ secret = clamp ownerHash ∧ key = ephPublic then
      sharedSecret
    else zeros 32
  hkdf salt ikm info :=
    if salt = ephPublic.1 ∧ ikm = sharedSecret.1 ∧ info = eciesInfo then derivedKey else zeros 32
  encrypt key nonce plaintext :=
    if Recorded key nonce plaintext then sealedBlobKey.1 else plaintext ++ List.replicate 16 0
  decrypt key nonce ciphertext :=
    if Recorded key nonce someBlobKey.1 ∧ ciphertext = sealedBlobKey.1 then some someBlobKey.1
    else
      let plaintext := ciphertext.take (ciphertext.length - 16)
      if ciphertext = plaintext ++ List.replicate 16 0 ∧ ¬ Recorded key nonce plaintext then
        some plaintext
      else none

theorem recorded_exchange (secret key : Bytes 32) :
    recordedCrates.diffieHellman secret key =
      if secret = ephSecret ∧ key = ownerMontgomery ∨ secret = clamp ownerHash ∧
        key = ephPublic then
        sharedSecret
      else zeros 32 := rfl

/-- The recorded exchange comes to the same from both sides, and every other one to zeros. -/
theorem recorded_commutes (seed secret : Bytes 32) :
    recordedCrates.diffieHellman secret
        (if recordedCrates.publicKey seed = ownerKey then ownerMontgomery else zeros 32) =
      recordedCrates.diffieHellman (clamp (recordedCrates.sha512 seed.1))
        (recordedCrates.x25519Public secret) := by
  have hform : ownerMontgomery ≠ ephPublic := by decide +kernel
  have hzeros : zeros 32 ≠ ownerKey ∧ zeros 32 ≠ ownerMontgomery ∧ zeros 32 ≠ ephPublic := by
    decide +kernel
  have hscalar : clamp ownerHash ≠ ephSecret := by decide +kernel
  have hother : clamp (zeros 64) ≠ ephSecret ∧ clamp (zeros 64) ≠ clamp ownerHash := by
    decide +kernel
  have hpublic : recordedCrates.x25519Public secret = ephPublic ↔ secret = ephSecret := by
    show (if secret = ephSecret then ephPublic else zeros 32) = ephPublic ↔ _
    by_cases hsecret : secret = ephSecret
    · rw [if_pos hsecret]
      exact iff_of_true rfl hsecret
    · rw [if_neg hsecret]
      exact iff_of_false hzeros.2.2 hsecret
  have hkey : recordedCrates.publicKey seed = if seed = ownerSeed then ownerKey else zeros 32 := rfl
  have hhash : recordedCrates.sha512 seed.1 =
      if seed.1 = ownerSeed.1 then ownerHash else zeros 64 := rfl
  rw [recorded_exchange, recorded_exchange]
  apply if_congr ?_ rfl rfl
  by_cases hseed : seed = ownerSeed
  · rw [hkey, hhash, if_pos hseed, if_pos (congrArg Subtype.val hseed), if_pos rfl]
    simp only [hpublic, hform, hscalar, and_true, and_false, or_false, false_and, true_and,
      false_or]
  · have hbytes : seed.1 ≠ ownerSeed.1 := fun h => hseed (Subtype.ext h)
    rw [hkey, hhash, if_neg hseed, if_neg hbytes, if_neg hzeros.1]
    simp only [hzeros, hother, and_false, false_and, or_false]

/-- The recorded ciphertext does not end in zeros. -/
theorem sealedBlobKey_ne_append (plaintext : List UInt8) :
    sealedBlobKey.1 ≠ plaintext ++ List.replicate 16 0 := by
  intro heq
  have hlast : sealedBlobKey.1.getLast? ≠ some 0 := by decide +kernel
  apply hlast
  rw [heq, List.getLast?_append]
  rfl

theorem recorded_decrypt_iff (key : Bytes 32) (nonce : Bytes 12)
    (ciphertext plaintext : List UInt8) :
    recordedCrates.decrypt key nonce ciphertext = some plaintext ↔
      ciphertext = recordedCrates.encrypt key nonce plaintext := by
  show (if _ then _ else if ciphertext = ciphertext.take (ciphertext.length - 16) ++ _ ∧ _ then _
    else _) = _ ↔ _ = if _ then _ else _
  by_cases hsealed : Recorded key nonce someBlobKey.1 ∧ ciphertext = sealedBlobKey.1
  · obtain ⟨hrecorded, rfl⟩ := hsealed
    rw [if_pos ⟨hrecorded, rfl⟩, Option.some.injEq]
    by_cases hplaintext : Recorded key nonce plaintext
    · rw [if_pos hplaintext]
      exact iff_of_true hplaintext.2.2.symm rfl
    · rw [if_neg hplaintext]
      refine iff_of_false ?_ (sealedBlobKey_ne_append plaintext)
      rintro rfl
      exact hplaintext hrecorded
  · rw [if_neg hsealed]
    by_cases hplaintext : Recorded key nonce plaintext
    · rw [if_pos hplaintext]
      have hrecorded : Recorded key nonce someBlobKey.1 :=
        ⟨hplaintext.1, hplaintext.2.1, rfl⟩
      refine iff_of_false ?_ (fun heq => hsealed ⟨hrecorded, heq⟩)
      split_ifs with htoy
      · intro heq
        rw [Option.some.inj heq] at htoy
        exact htoy.2 hplaintext
      · exact fun heq => by cases heq
    · rw [if_neg hplaintext]
      constructor
      · intro h
        split_ifs at h with htoy
        rw [Option.some.inj h] at htoy
        exact htoy.1
      · rintro rfl
        have htake : (plaintext ++ List.replicate 16 0).take
            ((plaintext ++ List.replicate 16 (0 : UInt8)).length - 16) = plaintext := by
          rw [List.length_append, List.length_replicate, Nat.add_sub_cancel, List.take_left]
        rw [htake, if_pos ⟨rfl, hplaintext⟩]

theorem recordedCrates_sound : recordedCrates.Sound where
  point seed := ⟨_, rfl⟩
  commutes seed secret montgomery hpoint := by
    have hform := Option.some.inj hpoint
    rw [← hform]
    exact recorded_commutes seed secret
  decrypt_iff := recorded_decrypt_iff
  length_encrypt key nonce plaintext := by
    show (if Recorded key nonce plaintext then _ else _ : List UInt8).length = _
    split_ifs with hrecorded
    · rw [hrecorded.2.2, sealedBlobKey.2, someBlobKey.2]
    · rw [List.length_append, List.length_replicate]

/-- The recorded text. -/
example : wrapBlobKey recordedCrates ephSecret drawnNonce someBlobKey (hexEncode ownerKey.1) =
    .ok ("57db4b359f23ae5e146e4e2512056704722506348c150c14753d0c933d04d421" ++
      "010101010101010101010101" ++
      "c6930b96b20ee5e75e9759a934bd52408530bf37e775b0bda9671ff3f490ae8f" ++
      "a8975c427641a155f80719b5777a194f") := by
  decide +kernel

theorem wrapsRight_recordedCrates : WrapsRight recordedCrates :=
  wrapsRight recordedCrates recordedCrates_sound

end Voxply.Identity
