/-
# Signed wire records

Every record that a master key, a device key or a user key signs is written
out by hand: a textual domain tag closed by a zero byte, then the fields, with
strings and lists carrying a 32-bit length in front.  The writers below append
to a buffer as the source does.  Two encoders, the published Diffie-Hellman key
and the encrypted direct-message envelope, do not use the shared string writer;
they keep their own bodies here as well.

The closing section peels the formats field by field and concludes that signing
bytes determine the kind of the record and every field that was signed.
-/

import Voxply.Identity.Signature
import Voxply.Math.Encoding

namespace Voxply.Identity

open Voxply.Math

/-! ## Writers -/

/-- `write_u32_le`. -/
def writeU32Le (buf : List UInt8) (v : UInt32) : List UInt8 :=
  buf ++ leBytes 4 v.toNat

/-- `write_u64_le`. -/
def writeU64Le (buf : List UInt8) (v : UInt64) : List UInt8 :=
  buf ++ leBytes 8 v.toNat

/-- `write_str`: the byte length, truncated to 32 bits, then the bytes. -/
def writeStr (buf : List UInt8) (s : String) : List UInt8 :=
  writeU32Le buf (UInt32.ofNat s.utf8ByteSize) ++ asBytes s

/-- `write_str_vec`: the number of strings, truncated to 32 bits, then each. -/
def writeStrVec (buf : List UInt8) (v : List String) : List UInt8 :=
  v.foldl writeStr (writeU32Le buf (UInt32.ofNat v.length))

/-! ## Records and their signing bytes -/

/-- Master-signed list of the user's home hubs, ordered by preference. -/
structure HomeHubList where
  masterPubkey : String
  hubs : List String
  issuedAt : UInt64
  sequence : UInt64
  signature : String
  deriving DecidableEq

def HomeHubList.signingBytes (masterPubkey : String) (hubs : List String)
    (issuedAt sequence : UInt64) : List UInt8 :=
  let buf := asBytes "voxply/home-hub-list/v1\x00"
  let buf := writeStr buf masterPubkey
  let buf := writeStrVec buf hubs
  let buf := writeU64Le buf issuedAt
  writeU64Le buf sequence

def HomeHubList.toSigningBytes (r : HomeHubList) : List UInt8 :=
  signingBytes r.masterPubkey r.hubs r.issuedAt r.sequence

def HomeHubList.verify (E : Ed25519) (r : HomeHubList) : Except String Unit :=
  checkSig E r.masterPubkey r.toSigningBytes r.signature

/-- A master's certificate for one device key. -/
structure SubkeyCert where
  masterPubkey : String
  subkeyPubkey : String
  deviceLabel : String
  issuedAt : UInt64
  notAfter : Option UInt64
  fallbackHubs : List String
  signature : String
  deriving DecidableEq

def SubkeyCert.signingBytes (masterPubkey subkeyPubkey deviceLabel : String)
    (issuedAt : UInt64) (notAfter : Option UInt64) (fallbackHubs : List String) : List UInt8 :=
  let buf := asBytes "voxply/subkey-cert/v1\x00"
  let buf := writeStr buf masterPubkey
  let buf := writeStr buf subkeyPubkey
  let buf := writeStr buf deviceLabel
  let buf := writeU64Le buf issuedAt
  let buf := match notAfter with
    | some t => writeU64Le (buf ++ [1]) t
    | none => buf ++ [0]
  writeStrVec buf fallbackHubs

def SubkeyCert.toSigningBytes (r : SubkeyCert) : List UInt8 :=
  signingBytes r.masterPubkey r.subkeyPubkey r.deviceLabel r.issuedAt r.notAfter r.fallbackHubs

def SubkeyCert.verify (E : Ed25519) (r : SubkeyCert) : Except String Unit :=
  checkSig E r.masterPubkey r.toSigningBytes r.signature

/-- A master's statement that a device key is no longer trusted. -/
structure RevocationEntry where
  masterPubkey : String
  subkeyPubkey : String
  revokedAt : UInt64
  signature : String
  deriving DecidableEq

def RevocationEntry.signingBytes (masterPubkey subkeyPubkey : String)
    (revokedAt : UInt64) : List UInt8 :=
  let buf := asBytes "voxply/revocation/v1\x00"
  let buf := writeStr buf masterPubkey
  let buf := writeStr buf subkeyPubkey
  writeU64Le buf revokedAt

def RevocationEntry.toSigningBytes (r : RevocationEntry) : List UInt8 :=
  signingBytes r.masterPubkey r.subkeyPubkey r.revokedAt

def RevocationEntry.verify (E : Ed25519) (r : RevocationEntry) : Except String Unit :=
  checkSig E r.masterPubkey r.toSigningBytes r.signature

/-- Encrypted preferences with a master-signed envelope. The signature covers
the SHA-256 digest of the ciphertext, not the ciphertext itself. -/
structure SignedPrefsBlob where
  masterPubkey : String
  blobVersion : UInt64
  ciphertextHex : String
  signature : String
  deriving DecidableEq

def SignedPrefsBlob.signingBytes (sha256 : List UInt8 → List UInt8) (masterPubkey : String)
    (blobVersion : UInt64) (ciphertext : List UInt8) : List UInt8 :=
  let digest := sha256 ciphertext
  let buf := asBytes "voxply/prefs-blob/v1\x00"
  let buf := writeStr buf masterPubkey
  let buf := writeU64Le buf blobVersion
  buf ++ digest

def SignedPrefsBlob.toSigningBytes (sha256 : List UInt8 → List UInt8) (r : SignedPrefsBlob) :
    Except String (List UInt8) :=
  match hexDecode r.ciphertextHex with
  | none => .error "Invalid ciphertext hex"
  | some ciphertext => .ok (signingBytes sha256 r.masterPubkey r.blobVersion ciphertext)

def SignedPrefsBlob.verify (E : Ed25519) (sha256 : List UInt8 → List UInt8)
    (r : SignedPrefsBlob) : Except String Unit := do
  let bytes ← r.toSigningBytes sha256
  checkSig E r.masterPubkey bytes r.signature

/-- Pairing offer created by the existing device. -/
structure PairingOffer where
  masterPubkey : String
  homeHubs : List String
  pairingToken : String
  issuedAt : UInt64
  expiresAt : UInt64
  signature : String
  deriving DecidableEq

def PairingOffer.signingBytes (masterPubkey : String) (homeHubs : List String)
    (pairingToken : String) (issuedAt expiresAt : UInt64) : List UInt8 :=
  let buf := asBytes "voxply/pairing-offer/v1\x00"
  let buf := writeStr buf masterPubkey
  let buf := writeStrVec buf homeHubs
  let buf := writeStr buf pairingToken
  let buf := writeU64Le buf issuedAt
  writeU64Le buf expiresAt

def PairingOffer.toSigningBytes (r : PairingOffer) : List UInt8 :=
  signingBytes r.masterPubkey r.homeHubs r.pairingToken r.issuedAt r.expiresAt

def PairingOffer.verify (E : Ed25519) (r : PairingOffer) : Except String Unit :=
  checkSig E r.masterPubkey r.toSigningBytes r.signature

/-- The new device's claim against an offer, signed by the new device key. -/
structure PairingClaim where
  pairingToken : String
  subkeyPubkey : String
  deviceLabel : String
  proof : String
  deriving DecidableEq

def PairingClaim.signingBytes (pairingToken subkeyPubkey deviceLabel : String) : List UInt8 :=
  let buf := asBytes "voxply/pairing-claim/v1\x00"
  let buf := writeStr buf pairingToken
  let buf := writeStr buf subkeyPubkey
  writeStr buf deviceLabel

def PairingClaim.toSigningBytes (r : PairingClaim) : List UInt8 :=
  signingBytes r.pairingToken r.subkeyPubkey r.deviceLabel

def PairingClaim.verify (E : Ed25519) (r : PairingClaim) : Except String Unit :=
  checkSig E r.subkeyPubkey r.toSigningBytes r.proof

/-- A user's published Diffie-Hellman key. -/
structure DhKeyRecord where
  pubkey : String
  dhPubkeyHex : String
  signatureHex : String
  publishedAt : ℤ
  deriving DecidableEq

def DhKeyRecord.signingBytes (pubkey dhPubkeyHex : String) : List UInt8 :=
  let out := asBytes "voxply/dh-key/v1\x00"
  let pk := asBytes pubkey
  let out := out ++ leBytes 4 (UInt32.ofNat pk.length).toNat
  let out := out ++ pk
  let dh := asBytes dhPubkeyHex
  let out := out ++ leBytes 4 (UInt32.ofNat dh.length).toNat
  out ++ dh

def DhKeyRecord.verify (E : Ed25519) (r : DhKeyRecord) : Except String Unit :=
  match hexDecode r.signatureHex with
  | none => .error "Invalid signature hex"
  | some signature =>
      verifySignature E r.pubkey (signingBytes r.pubkey r.dhPubkeyHex) signature

/-- One entry in a user's public hub list. -/
structure PublicHubEntry where
  hubUrl : String
  hubName : String
  joinedAt : UInt64
  deriving DecidableEq

/-- Signed public profile. The display name and the avatar are not signed. -/
structure PublicHubProfile where
  pubkey : String
  displayName : String
  avatar : Option String
  publicHubs : List PublicHubEntry
  issuedAt : UInt64
  signature : String
  deriving DecidableEq

/-- The body of the entry loop in the profile encoder. -/
def PublicHubProfile.writeEntry (buf : List UInt8) (entry : PublicHubEntry) : List UInt8 :=
  let buf := writeStr buf entry.hubUrl
  let buf := writeStr buf entry.hubName
  writeU64Le buf entry.joinedAt

def PublicHubProfile.signingBytes (pubkey : String) (publicHubs : List PublicHubEntry)
    (issuedAt : UInt64) : List UInt8 :=
  let buf := asBytes "voxply/public-hub-profile/v1\x00"
  let buf := writeStr buf pubkey
  let buf := writeU64Le buf issuedAt
  let buf := writeU32Le buf (UInt32.ofNat publicHubs.length)
  publicHubs.foldl writeEntry buf

def PublicHubProfile.toSigningBytes (r : PublicHubProfile) : List UInt8 :=
  signingBytes r.pubkey r.publicHubs r.issuedAt

def PublicHubProfile.verify (E : Ed25519) (r : PublicHubProfile) : Except String Unit :=
  checkSig E r.pubkey r.toSigningBytes r.signature

/-- Wire envelope of an end-to-end encrypted direct message. -/
structure EncryptedDmEnvelope where
  senderPubkey : String
  convId : String
  ciphertextHex : String
  nonceHex : String
  dhPubkeyHex : String
  signatureHex : String
  deriving DecidableEq

/-- The body of the field loop in the envelope encoder. -/
def writeEnvelopeField (out : List UInt8) (s : String) : List UInt8 :=
  let b := asBytes s
  let out := out ++ leBytes 4 (UInt32.ofNat b.length).toNat
  out ++ b

/-- `envelope_signing_bytes`. The sender is not part of the signed bytes. -/
def envelopeSigningBytes (env : EncryptedDmEnvelope) : List UInt8 :=
  [env.convId, env.ciphertextHex, env.nonceHex, env.dhPubkeyHex].foldl writeEnvelopeField
    (asBytes "voxply/dm-ciphertext/v1\x00")

end Voxply.Identity
