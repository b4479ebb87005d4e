/-
# Logging in at the farm

A user asks for a challenge, answers it with a signature and is given a token; a token
can be exchanged for one that expires later.  The token itself is not stored: a row with
its `jti` is, and that row says whether the token has been revoked.  The admin of the
farm can revoke all sessions of a user.
-/

import Voxply.Farm.Db

namespace Voxply.Farm

open Voxply.Math Voxply.Identity
open Voxply.Hub (SqlError StatusCode)

/-- Thirty days. -/
def sessionTtl : Int := 30 * 24 * 60 * 60

/-! ## Statements -/

/-- `INSERT INTO pending_challenges … ON CONFLICT(public_key) DO UPDATE`. -/
def upsertChallenge (row : PendingChallengeRow) (db : Db) : Db :=
  { db with
    pendingChallenges := db.pendingChallenges.upsert row
      (fun old => { old with challengeHex := row.challengeHex, expiresAt := row.expiresAt })
      fun _ => rfl }

/-- `DELETE FROM pending_challenges WHERE public_key = ?`. -/
def deleteChallenge (publicKey : String) (db : Db) : Db :=
  { db with pendingChallenges := db.pendingChallenges.keep (·.publicKey ≠ publicKey) }

/-- `INSERT INTO farm_users … ON CONFLICT(public_key) DO UPDATE`. -/
def upsertUser (publicKey : String) (now : Int) (db : Db) : Db :=
  { db with
    farmUsers := db.farmUsers.upsert
      { publicKey := publicKey, masterPubkey := none, firstSeenAt := now, lastSeenAt := now }
      (fun old => { old with lastSeenAt := now }) fun _ => rfl }

/-- `INSERT INTO farm_sessions`. -/
def insertSession (row : FarmSessionRow) (db : Db) : Except SqlError Db :=
  match db.farmSessions.insert? row with
  | none => .error (.primaryKey "farm_sessions.jti")
  | some farmSessions =>
      if db.farmUsers.has row.publicKey then .ok { db with farmSessions := farmSessions }
      else .error .foreignKey

/-- A session that can still be revoked: `revoked_at IS NULL AND expires_at > ?`. -/
def FarmSessionRow.isActive (now : Int) (row : FarmSessionRow) : Bool :=
  row.revokedAt.isNone && row.expiresAt > now

/-- `UPDATE farm_sessions SET revoked_at = ?, revoked_manually = 1`. -/
def revokeSessions (publicKey : String) (now : Int) (db : Db) : Db :=
  { db with
    farmSessions := db.farmSessions.update (fun row =>
      row.publicKey = publicKey && row.isActive now)
      (fun row => { row with revokedAt := some now, revokedManually := 1 }) fun _ => rfl }

/-- The sessions of a user that can still be revoked. -/
def Db.activeSessions (db : Db) (publicKey : String) (now : Int) : List FarmSessionRow :=
  db.farmSessions.rows.filter fun row => row.publicKey = publicKey && row.isActive now

/-- The update, with the number of rows affected. -/
def updateSessions (publicKey : String) (now : Int) : Handler ℕ :=
  .step (written (revokeSessions publicKey now)) fun s =>
    .ret (s.db.activeSessions publicKey now).length

/-! ## Challenges -/

def challenge (nonce : List UInt8) (publicKey : String) : Handler String := do
  let now ← unixNow
  write (upsertChallenge ⟨publicKey, hexEncode nonce, now + 60⟩)
  pure (hexEncode nonce)

structure VerifyRequest where
  publicKey : String
  signature : String
  scope : Option String
  deriving DecidableEq

def normaliseScope (s : Option String) : String :=
  if s = some "lobby" then "lobby" else "member"

/-- The signature has to be one of the challenge's bytes. -/
def checkAnswer (E : Ed25519) (req : VerifyRequest) (challengeHex : String) :
    Except ApiError Unit :=
  match hexDecode challengeHex with
  | none => .error (textError .internalServerError "Bad challenge hex in DB")
  | some challengeBytes =>
      match hexDecode req.signature with
      | none => .error (textError .badRequest "Invalid signature hex")
      | some sigBytes =>
          (verifySignature E req.publicKey challengeBytes sigBytes).mapError fun _ =>
            textError .unauthorized "Invalid signature"

/-- The row of a session that is opened now. -/
def newSession (jti publicKey : String) (now : Int) (scope : String) : FarmSessionRow where
  jti := jti
  publicKey := publicKey
  issuedAt := now
  expiresAt := now + sessionTtl
  revokedAt := none
  scope := scope
  revokedManually := 0

/-- The payload of the token for a session. -/
def FarmConfig.payload (farm : FarmConfig) (row : FarmSessionRow) (master : Option String) :
    FarmTokenPayload where
  v := 1
  iss := farm.farmUrl
  issPk := farm.publicKeyHex
  sub := row.publicKey
  master := master
  jti := row.jti
  iat := Int64.ofInt row.issuedAt
  exp := Int64.ofInt row.expiresAt
  scope := row.scope

def FarmConfig.token (farm : FarmConfig) (row : FarmSessionRow) (master : Option String) : String :=
  signToken farm.ed25519 farm.json farm.keypair (farm.payload row master)

/-- What `verify` does once the answer has been accepted. -/
def openSession (farm : FarmConfig) (jtiBytes : List UInt8) (req : VerifyRequest) (now : Int) :
    Handler String := do
  write (deleteChallenge req.publicKey)
  write (upsertUser req.publicKey now)
  let row := newSession (hexEncode jtiBytes) req.publicKey now (normaliseScope req.scope)
  execute dbError (insertSession row)
  pure (farm.token row none)

def verify (farm : FarmConfig) (jtiBytes : List UInt8) (req : VerifyRequest) : Handler String := do
  let now ← unixNow
  let row ← fetch (·.pendingChallenges.find? req.publicKey)
  match row with
  | none => .fail (textError .unauthorized "No pending challenge for this key")
  | some pending =>
      if now ≥ pending.expiresAt then do
        -- What becomes of this statement is not looked at.
        write (deleteChallenge req.publicKey)
        .fail (textError .unauthorized "Challenge expired")
      else do
        .ofExcept (checkAnswer farm.ed25519 req pending.challengeHex)
        openSession farm jtiBytes req now

/-! ## Tokens -/

/-- What is read of the headers of a request: the rest of the `authorization` header, if
there is one, it is text and it starts with `Bearer `. -/
abbrev Bearer := Option String

/-- `verify_token` with the clock read. -/
def FarmConfig.verifyToken (farm : FarmConfig) (now : Int) (token : String) :
    Except String FarmTokenPayload :=
  Voxply.Farm.verifyToken farm.ed25519 farm.json now farm.publicKeyHex token

def extractBearer (bearer : Bearer) : Except ApiError String :=
  bearer.elim (.error (textError .unauthorized "Missing or invalid Authorization header")) .ok

/-- `renew`: whether the session of the old token has been revoked is not asked. -/
def renew (farm : FarmConfig) (jtiBytes : List UInt8) (bearer : Bearer) :
    Handler String := do
  let token ← .ofExcept (extractBearer bearer)
  let checkNow ← unixNow
  let old ← .ofExcept ((farm.verifyToken checkNow token).mapError fun e =>
    textError .unauthorized ("Invalid farm token: " ++ e))
  let now ← unixNow
  let row := newSession (hexEncode jtiBytes) old.sub now old.scope
  execute dbError (insertSession row)
  pure (farm.token row old.master)

/-! ## Authenticated requests -/

def requireAuth (farm : FarmConfig) (bearer : Bearer) : Handler FarmTokenPayload := do
  let token ← .ofExcept (bearer.elim (.error (jsonError .unauthorized "missing_token")) .ok)
  let now ← unixNow
  .ofExcept ((farm.verifyToken now token).mapError fun _ =>
    jsonError .unauthorized "invalid_token")

def getAdminPubkey : Handler (Option String) :=
  fetch fun db => db.farms.bind (·.adminPubkey)

def requireAdmin (farm : FarmConfig) (bearer : Bearer) : Handler String := do
  let payload ← requireAuth farm bearer
  let adminPubkey ← getAdminPubkey
  .ensure (adminPubkey = some payload.sub) (jsonError .forbidden "farm_admin_only")
  pure payload.sub

/-! ## Revocation -/

/-- `revoke_check`: an unknown session counts as revoked. -/
def revokeCheck (jti : String) : Handler Bool := do
  let now ← unixNow
  let row ← fetch (·.farmSessions.find? jti)
  match row with
  | none => pure true
  | some row => pure (row.revokedAt.isSome || now ≥ row.expiresAt)

def revokeUserSessions (farm : FarmConfig) (bearer : Bearer) (pubkey : String) :
    Handler ℕ := do
  let _ ← requireAdmin farm bearer
  let exists? ← fetch (·.farmUsers.has pubkey)
  .ensure (exists? = true) (jsonError .notFound "user_not_found")
  let now ← unixNow
  updateSessions pubkey now

/-! ## Rows of sessions -/

theorem rows_insertSession {row : FarmSessionRow} {db db' : Db}
    (h : insertSession row db = .ok db') : (∀ old ∈ db.farmSessions.rows, old.jti ≠ row.jti) ∧
      db'.farmSessions.rows = db.farmSessions.rows ++ [row] ∧
      db'.pendingChallenges = db.pendingChallenges := by
  unfold insertSession at h
  split at h
  · cases h
  · rename_i farmSessions hinsert
    split_ifs at h
    cases h
    obtain ⟨hfree, hrows⟩ := Table.insert?_eq_some_iff.mp hinsert
    exact ⟨hfree, hrows, rfl⟩

/-- A session that is live after a revocation was live before, and had expired if it was one of
those that are revoked. -/
theorem live_of_revokeSessions {publicKey : String} {now : Int} {db : Db} {row : FarmSessionRow}
    (hrow : row ∈ (revokeSessions publicKey now db).farmSessions.rows)
    (hlive : row.revokedAt = none) :
    row ∈ db.farmSessions.rows ∧ (row.publicKey = publicKey → row.expiresAt ≤ now) := by
  simp only [revokeSessions, Table.rows_update, List.mem_map, Bool.and_eq_true,
    decide_eq_true_eq] at hrow
  obtain ⟨old, hold, hcases⟩ := hrow
  split_ifs at hcases with hactive
  · rw [← hcases] at hlive
    cases hlive
  · subst hcases
    refine ⟨hold, fun hkey => not_lt.mp fun hlater => hactive ⟨hkey, ?_⟩⟩
    rw [FarmSessionRow.isActive, hlive, Option.isNone_none, Bool.true_and, decide_eq_true_eq]
    exact hlater

end Voxply.Farm
