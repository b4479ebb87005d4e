/-
# Certifications and the libraries the hub relies on

A hub vouches for its members with signed certifications, and another hub may
ask for one at login.  The signature covers the JSON text of the payload.  JSON,
base64, digests and signatures come from libraries; `Crates` collects them as
parameters of the model, with the types the program uses them at.
-/

import Voxply.Hub.Db
import Voxply.Identity.Pow
import Voxply.Identity.Wire

namespace Voxply.Hub

open Voxply.Math Voxply.Identity

/-! ## Records read and written as JSON -/

/-- The payload signed by the issuing hub. -/
structure CertPayload where
  subjectKind : String
  issuerPubkey : String
  issuerUrl : String
  subjectPubkey : String
  memberSince : Int
  standing : String
  powLevel : Option ℕ
  issuedAt : Int
  expiresAt : Int
  capabilities : List String
  deriving DecidableEq

structure Certification where
  payload : CertPayload
  signature : String
  deriving DecidableEq

structure TrustedIssuer where
  pubkey : String
  url : String
  label : String := ""
  deriving DecidableEq

structure CertRequire where
  minPowLevel : Option ℕ := none
  minMemberSinceDays : Option ℕ := none
  deriving DecidableEq

/-- The badge payload that an issuing hub signs. -/
structure BadgePayload where
  issuerPubkey : String
  issuerUrl : String
  subjectPubkey : String
  label : String
  issuedAt : String
  expiresAt : Option String
  deriving DecidableEq

/-- The fields of a farm token that the hub looks at. -/
structure FarmTokenPayload where
  exp : Int
  issPk : String
  sub : String
  deriving DecidableEq

/-- The library functions the hub calls. The readers answer `none` on text that
does not parse. -/
structure Crates where
  ed25519 : Ed25519
  sha256 : List UInt8 → List UInt8
  base64Decode : List UInt8 → Option (List UInt8)
  certPayloadJson : CertPayload → Option String
  capabilitiesJson : List String → String
  readTrustedIssuers : String → Option (List TrustedIssuer)
  readCertRequire : String → Option CertRequire
  readBadgePayload : String → Option BadgePayload
  readFarmTokenPayload : List UInt8 → Option FarmTokenPayload

/-- The libraries as far as recorded signatures tell; nothing else is called. -/
def Crates.ofRecorded (recorded : List RecordedSignature) : Crates where
  ed25519 := .ofRecorded recorded
  sha256 := fun _ => []
  base64Decode := fun _ => none
  certPayloadJson := fun _ => none
  capabilitiesJson := fun _ => "[]"
  readTrustedIssuers := fun _ => none
  readCertRequire := fun _ => none
  readBadgePayload := fun _ => none
  readFarmTokenPayload := fun _ => none

/-! ## Settings of the certification gate -/

def loadCertMode : Handler String :=
  fetch fun db => (db.setting "cert_mode").getD "none"

def loadTrustedIssuers (lib : Crates) : Handler (List TrustedIssuer) :=
  fetch fun db =>
    (lib.readTrustedIssuers ((db.setting "cert_trusted_issuers").getD "[]")).getD []

def loadCertRequire (lib : Crates) : Handler CertRequire :=
  fetch fun db => (lib.readCertRequire ((db.setting "cert_require").getD "\x7b\x7d")).getD {}

/-- One presented certification satisfies the gate of `verify`. -/
def certSatisfies (lib : Crates) (now : Int) (mode masterPk : String)
    (trustedIssuers : List TrustedIssuer) (certRequire : CertRequire)
    (cert : Certification) : Bool :=
  let payload := cert.payload
  payload.subjectPubkey = masterPk && now ≤ payload.expiresAt && payload.standing = "good" &&
  (match hexDecode cert.signature, lib.certPayloadJson payload with
    | some sigBytes, some payloadJson =>
        (verifySignature lib.ed25519 payload.issuerPubkey (asBytes payloadJson) sigBytes).isOk
    | _, _ => false) &&
  (match certRequire.minPowLevel with
    | some minPow => payload.powLevel.any (minPow ≤ ·)
    | none => true) &&
  (match certRequire.minMemberSinceDays with
    | some minDays => decide (payload.memberSince ≤ now - minDays * 86400)
    | none => true) &&
  (mode = "any" ||
    mode = "trusted" && trustedIssuers.any (·.pubkey = payload.issuerPubkey))

end Voxply.Hub
