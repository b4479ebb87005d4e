/-
# Pairing a new device

An existing device posts an offer under a token that it shows to the new device;
the new device claims the offer with its key; the existing device completes it
with a certificate for that key; and both poll the state.  Nobody is logged in:
the token is the secret, and each message carries a signature.

The handlers check what they have read and then write.  A claim and a completion
only change a row that is still in the state they expect, an offer only takes a
free token, but none of the handlers asks whether its write has changed
anything.  The clock is read several times in a request; the readings are
arguments.
-/

import Voxply.Hub.IdentityStore

namespace Voxply.Hub

open Voxply.Math Voxply.Identity

/-! ## Messages -/

structure PairingComplete where
  pairingToken : String
  cert : SubkeyCert
  wrappedBlobKeyHex : String
  deriving DecidableEq

/-- What the two devices poll. -/
inductive PairingStatus where
  | pending
  | claimed (subkeyPubkey deviceLabel : String)
  | complete (cert : SubkeyCert) (wrappedBlobKeyHex : String)
  | expired
  deriving DecidableEq

/-- The clock readings of one request: the one that expired rows are deleted by,
the one that the expiry is checked against, and those that are stored. -/
structure PairingClock where
  prune : Int
  check : Int
  created : Int
  updated : Int
  deriving DecidableEq

/-- A clock that stands still. -/
def PairingClock.at (now : Int) : PairingClock :=
  ⟨now, now, now, now⟩

def PairingState.text : PairingState → String
  | .pending => "pending"
  | .claimed => "claimed"
  | .complete => "complete"

def maxOfferLifetimeSecs : ℕ := 300

/-! ## Statements -/

/-- `DELETE FROM pairing_offers WHERE expires_at < ?`. -/
def pruneExpired (now : Int) (db : Db) : Db :=
  { db with pairingOffers := db.pairingOffers.keep fun row => ¬ row.expiresAt < now }

/-- The row that an offer is stored as. -/
def pairingOfferRow (clock : PairingClock) (homeHubsJson : String) (offer : PairingOffer) :
    PairingOfferRow where
  pairingToken := offer.pairingToken
  masterPubkey := offer.masterPubkey
  homeHubsJson := homeHubsJson
  issuedAt := asI64 offer.issuedAt
  expiresAt := asI64 offer.expiresAt
  offerSignature := offer.signature
  state := .pending
  createdAt := clock.created
  updatedAt := clock.updated

/-- `INSERT INTO pairing_offers … ON CONFLICT(pairing_token) DO NOTHING`. -/
def insertOffer (row : PairingOfferRow) (db : Db) : Db :=
  { db with pairingOffers := db.pairingOffers.insertOrIgnore row }

/-- What a claim makes of a pending row. -/
def PairingOfferRow.claimedBy (row : PairingOfferRow) (claim : PairingClaim) (now : Int) :
    PairingOfferRow :=
  { row with
    state := .claimed, subkeyPubkey := some claim.subkeyPubkey,
    deviceLabel := some claim.deviceLabel, claimProof := some claim.proof, updatedAt := now }

theorem PairingOfferRow.pairingToken_claimedBy (row : PairingOfferRow) (claim : PairingClaim)
    (now : Int) : (row.claimedBy claim now).pairingToken = row.pairingToken := rfl

/-- `UPDATE pairing_offers SET state = 'claimed', … WHERE pairing_token = ? AND
state = 'pending'`. -/
def claimOffer (now : Int) (claim : PairingClaim) (db : Db) : Db :=
  { db with
    pairingOffers := db.pairingOffers.update
      (fun row => row.pairingToken = claim.pairingToken ∧ row.state = .pending)
      (·.claimedBy claim now) fun row => row.pairingToken_claimedBy claim now }

/-- What a completion makes of a claimed row. -/
def PairingOfferRow.completedBy (row : PairingOfferRow) (complete : PairingComplete)
    (certJson : String) (now : Int) : PairingOfferRow :=
  { row with
    state := .complete, certJson := some certJson,
    wrappedKeyHex := some complete.wrappedBlobKeyHex, updatedAt := now }

theorem PairingOfferRow.pairingToken_completedBy (row : PairingOfferRow)
    (complete : PairingComplete) (certJson : String) (now : Int) :
    (row.completedBy complete certJson now).pairingToken = row.pairingToken := rfl

/-- `UPDATE pairing_offers SET state = 'complete', … WHERE pairing_token = ? AND
state = 'claimed'`. -/
def finishOffer (now : Int) (certJson : String) (complete : PairingComplete) (db : Db) : Db :=
  { db with
    pairingOffers := db.pairingOffers.update
      (fun row => row.pairingToken = complete.pairingToken ∧ row.state = .claimed)
      (·.completedBy complete certJson now)
      fun row => row.pairingToken_completedBy complete certJson now }

/-- The transaction of a completion. The certificate is stored whatever becomes
of the update. -/
def completeOffer (clock : PairingClock) (certJson fallbackJson : String)
    (complete : PairingComplete) (db : Db) : Db :=
  finishOffer clock.updated certJson complete
    (upsertSubkeyCert (subkeyCertRow clock.created fallbackJson complete.cert) db)

/-! ## The handlers -/

/-- `post_offer`. The lifetime of an offer is measured between its own two
times; the hub's clock is compared with one of them. -/
def postOffer (lib : Crates) (json : IdentityJson) (clock : PairingClock) (offer : PairingOffer) :
    Handler StatusCode := do
  .ofExcept ((offer.verify lib.ed25519).mapError fun e => ⟨.badRequest, "Bad signature: " ++ e⟩)
  .ensure (offer.issuedAt < offer.expiresAt) ⟨.badRequest, "expires_at must exceed issued_at"⟩
  .ensure (offer.expiresAt.toNat - offer.issuedAt.toNat ≤ maxOfferLifetimeSecs)
    ⟨.badRequest, "offer lifetime exceeds 5 minutes"⟩
  .ensure (asU64 clock.check < offer.expiresAt) ⟨.badRequest, "offer is already expired"⟩
  .ensure (32 ≤ offer.pairingToken.utf8ByteSize) ⟨.badRequest, "pairing_token too short"⟩
  write (pruneExpired clock.prune)
  let homeHubsJson ← .ofExcept ((json.writeStrings offer.homeHubs).mapError fun e =>
    dbErr ("serialize home_hubs: " ++ e))
  write (insertOffer (pairingOfferRow clock homeHubsJson offer))
  pure .ok

/-- The row of a token, for claims and completions. -/
def fetchOffer (token : String) : Handler PairingOfferRow := do
  let row ← fetch (·.pairingOffers.find? token)
  .ofExcept (row.elim (.error ⟨.notFound, "Unknown or expired token"⟩) .ok)

/-- `post_claim`. -/
def postClaim (lib : Crates) (clock : PairingClock) (claim : PairingClaim) :
    Handler StatusCode := do
  .ofExcept ((claim.verify lib.ed25519).mapError fun e => ⟨.badRequest, "Bad proof: " ++ e⟩)
  write (pruneExpired clock.prune)
  let row ← fetchOffer claim.pairingToken
  .ensure (¬ row.expiresAt < clock.check) ⟨.gone, "Token expired"⟩
  .ensure (row.state = .pending)
    ⟨.conflict, "Offer already in state '" ++ row.state.text ++ "'"⟩
  write (claimOffer clock.updated claim)
  pure .ok

/-- `post_complete`. -/
def postComplete (lib : Crates) (json : IdentityJson) (clock : PairingClock)
    (complete : PairingComplete) : Handler StatusCode := do
  .ofExcept ((complete.cert.verify lib.ed25519).mapError fun e =>
    ⟨.badRequest, "Bad cert signature: " ++ e⟩)
  write (pruneExpired clock.prune)
  let row ← fetchOffer complete.pairingToken
  .ensure (¬ row.expiresAt < clock.check) ⟨.gone, "Token expired"⟩
  .ensure (row.state = .claimed)
    ⟨.conflict, "Offer not in 'claimed' state (current: '" ++ row.state.text ++ "')"⟩
  .ensure (complete.cert.masterPubkey = row.masterPubkey)
    ⟨.badRequest, "cert master_pubkey doesn't match offer"⟩
  .ensure (some complete.cert.subkeyPubkey = row.subkeyPubkey)
    ⟨.badRequest, "cert subkey_pubkey doesn't match claim"⟩
  let certJson ← .ofExcept ((json.writeCert complete.cert).mapError fun e =>
    dbErr ("serialize cert: " ++ e))
  let fallbackJson ← .ofExcept ((json.writeStrings complete.cert.fallbackHubs).mapError fun e =>
    dbErr ("serialize fallback_hubs: " ++ e))
  write (completeOffer clock certJson fallbackJson complete)
  pure .ok

/-- The error that a column which is unexpectedly null makes of a request: the
handler panics and the connection is dropped. -/
def nullColumn (column : String) : ApiError :=
  ⟨.internalServerError, "unexpected null in " ++ column⟩

/-- A status from the columns of an offer. -/
def readStatus (json : IdentityJson) (now : Int) (row : PairingOfferRow) :
    Except ApiError PairingStatus :=
  if row.expiresAt < now then .ok .expired
  else
    match row.state with
    | .pending => .ok .pending
    | .claimed => do
        let subkeyPubkey ← row.subkeyPubkey.elim (.error (nullColumn "subkey_pubkey")) .ok
        let deviceLabel ← row.deviceLabel.elim (.error (nullColumn "device_label")) .ok
        pure (.claimed subkeyPubkey deviceLabel)
    | .complete => do
        let certJson ← row.certJson.elim (.error (nullColumn "cert_json")) .ok
        let wrappedBlobKeyHex ← row.wrappedKeyHex.elim (.error (nullColumn "wrapped_key_hex")) .ok
        let cert ← (json.readCert certJson).mapError fun e => dbErr ("parse cert_json: " ++ e)
        pure (.complete cert wrappedBlobKeyHex)

/-- `get_status`. -/
def getStatus (json : IdentityJson) (now : Int) (token : String) : Handler PairingStatus := do
  let row ← fetch (·.pairingOffers.find? token)
  .ofExcept (row.elim (.error ⟨.notFound, "Unknown token"⟩) (readStatus json now))

/-! ## Effects on a row -/

section Effects

variable {db : Db} {token : String}

theorem find?_pruneExpired (now : Int) :
    (pruneExpired now db).pairingOffers.find? token =
      (db.pairingOffers.find? token).filter fun row => ¬ row.expiresAt < now :=
  Table.find?_keep ..

theorem find?_insertOffer (row : PairingOfferRow) :
    (insertOffer row db).pairingOffers.find? token =
      if token = row.pairingToken then some ((db.pairingOffers.find? token).getD row)
      else db.pairingOffers.find? token :=
  Table.find?_insertOrIgnore ..

theorem find?_claimOffer (now : Int) (claim : PairingClaim) :
    (claimOffer now claim db).pairingOffers.find? token =
      (db.pairingOffers.find? token).map fun row =>
        if row.pairingToken = claim.pairingToken ∧ row.state = .pending then
          row.claimedBy claim now
        else row := by
  rw [claimOffer, Table.find?_update]
  simp

theorem find?_completeOffer (clock : PairingClock) (certJson fallbackJson : String)
    (complete : PairingComplete) :
    (completeOffer clock certJson fallbackJson complete db).pairingOffers.find? token =
      (db.pairingOffers.find? token).map fun row =>
        if row.pairingToken = complete.pairingToken ∧ row.state = .claimed then
          row.completedBy complete certJson clock.updated
        else row := by
  rw [completeOffer, finishOffer, Table.find?_update]
  simp [upsertSubkeyCert]

end Effects

end Voxply.Hub
