/-
# Who a request comes from

Every authenticated endpoint takes its caller from the bearer token.  A token
with a dot in it is a farm token: it is checked against the farm's key, and the
caller is entered into the hub on the first visit.  Any other token is looked up
among the sessions and the bot tokens, and refused if the key it belongs to has
been revoked.  The websocket endpoint has a lookup of its own.
-/

import Voxply.Hub.Verify

namespace Voxply.Hub

open Voxply.Math Voxply.Identity

/-! ## Requests -/

/-- What the extractor reads of a request: the `authorization` header, if it is
there and is text, and the path. -/
structure AuthRequest where
  authorization : Option String
  path : String

/-- What the surroundings supply while a farm token is checked: the readings of
the clock in the order they are taken, and the `public_key` in the farm's answer,
if there is one. -/
structure AuthEnv where
  checkNow : Int
  refetchNow : Int
  fetchedNow : Int
  retryNow : Int
  now : Int
  farmInfo : Option String

/-- `header.strip_prefix("Bearer ")`. -/
def stripBearer (header : String) : Option String :=
  if "Bearer ".toList.isPrefixOf header.toList then some (String.ofList (header.toList.drop 7))
  else none

/-- `token.contains('.')`; the dot is a single byte. -/
def isFarmToken (token : String) : Bool :=
  (asBytes token).contains 46

def bearerToken (req : AuthRequest) : Except ApiError String :=
  match req.authorization with
  | none => .error ⟨.unauthorized, "Missing Authorization header"⟩
  | some header =>
      match stripBearer header with
      | none => .error ⟨.unauthorized, "Invalid Authorization format"⟩
      | some token => .ok token

/-- Pending users may only see their own status. -/
def pendingAllowedPaths : List String := ["/me"]

def farmRefetchCooldown : Int := 60

/-! ## Farm tokens -/

/-- The bytes before and after the first dot. -/
def splitDot (token : String) : Option (List UInt8 × List UInt8) :=
  match (asBytes token).span (· ≠ 46) with
  | (payload, _ :: signature) => some (payload, signature)
  | (_, []) => none

/-- `try_verify_farm_token`: the user key named by a token of the farm. -/
def tryVerifyFarmToken (lib : Crates) (now : Int) (farmPubkeyHex tokenStr : String) :
    Except ApiError String :=
  match splitDot tokenStr with
  | none => .error ⟨.unauthorized, "Malformed farm token"⟩
  | some (payloadB64, sigB64) =>
      match lib.base64Decode payloadB64, lib.base64Decode sigB64 with
      | none, _ => .error ⟨.unauthorized, "Invalid farm token encoding"⟩
      | some _, none => .error ⟨.unauthorized, "Invalid farm token signature encoding"⟩
      | some payloadBytes, some sigBytes =>
          match verifySignature lib.ed25519 farmPubkeyHex payloadBytes sigBytes with
          | .error _ => .error ⟨.unauthorized, "Invalid farm token signature"⟩
          | .ok () =>
              match lib.readFarmTokenPayload payloadBytes with
              | none => .error ⟨.unauthorized, "Malformed farm token payload"⟩
              | some payload =>
                  if now ≥ payload.exp then .error ⟨.unauthorized, "Farm token has expired"⟩
                  else if payload.issPk ≠ farmPubkeyHex then
                    .error ⟨.unauthorized, "Farm token iss_pk does not match cached farm pubkey"⟩
                  else .ok payload.sub

/-- After a failed check, ask the farm for its key, at most once a minute, and
try again with the answer. Every failure reports the first error. -/
def refetchFarmPubkey (lib : Crates) (env : AuthEnv) (token : String) (firstErr : ApiError) :
    Handler String := do
  let last ← .query AppState.lastFarmPubkeyFetch
  .ensure (env.refetchNow - last > farmRefetchCooldown) firstErr
  let farmUrl ← .query AppState.farmUrl
  .ensure (farmUrl.isSome) firstErr
  .exec fun s => { s with lastFarmPubkeyFetch := env.fetchedNow }
  match env.farmInfo with
  | none => .fail firstErr
  | some newPk => do
      .exec fun s => { s with cachedFarmPubkey := some newPk }
      .ofExcept ((tryVerifyFarmToken lib env.retryNow newPk token).mapError fun _ => firstErr)

/-- The user a farm token stands for. -/
def farmIdentity (lib : Crates) (env : AuthEnv) (token : String) : Handler String := do
  let cachedPubkey ← .query AppState.cachedFarmPubkey
  match cachedPubkey with
  | none => .fail ⟨.unauthorized, "no_farm_configured"⟩
  | some farmPubkey =>
      match tryVerifyFarmToken lib env.checkNow farmPubkey token with
      | .ok sub => pure sub
      | .error firstErr => refetchFarmPubkey lib env token firstErr

/-- A write whose constraint violation is ignored. -/
def writeIgnoring (f : Db → Except SqlError Db) : Handler Unit :=
  write fun db => match f db with
    | .ok db' => db'
    | .error _ => db

theorem written_ignoring (f : Db → Except SqlError Db) :
    written (fun db => match f db with
      | .ok db' => db'
      | .error _ => db) = executed f := by
  funext s
  unfold written executed
  dsimp only
  cases f s.db <;> rfl

theorem run_writeIgnoring_of_ok {f : Db → Except SqlError Db} {s : AppState} {db : Db}
    (h : f s.db = .ok db) : (writeIgnoring f).run s = (.ok (), s.withDb db) := by
  rw [writeIgnoring, run_write, h]

/-- The lazy upsert of a farm user. -/
def upsertFarmUser (publicKey : String) (now : Int) (db : Db) : Db :=
  { db with
    users := db.users.upsert { publicKey := publicKey, firstSeenAt := now, lastSeenAt := now }
      (fun old => { old with lastSeenAt := now }) fun _ => rfl }

/-- Roles for farm users without any. -/
def assignFarmRoles (now : Int) (publicKey : String) : Handler Unit := do
  let hasRoles ← fetch (·.roleCount publicKey)
  .when (hasRoles = 0) do
    let ownerExists ← fetch fun db => db.userRoles.rows.any (·.roleId = "builtin-owner")
    .when (ownerExists = false) do
      writeIgnoring (insertUserRole ⟨publicKey, "builtin-owner", now⟩)
    writeIgnoring (insertUserRoleOrIgnore ⟨publicKey, "builtin-everyone", now⟩)

/-- Enter a farm user into the hub: the row and the roles are written first, the
ban and the approval are looked at afterwards. -/
def farmAdmission (now : Int) (path publicKey : String) : Handler Unit := do
  write (upsertFarmUser publicKey now)
  assignFarmRoles now publicKey
  let banned ← isBanned publicKey
  .ensure (¬ banned) ⟨.forbidden, "User is banned"⟩
  let approvalStatus ← fetch fun db =>
    ((db.users.find? publicKey).map (·.approvalStatus)).getD .approved
  .ensure (approvalStatus = .pending → path ∈ pendingAllowedPaths)
    ⟨.forbidden, "Account is pending admin approval"⟩

/-! ## Opaque tokens -/

/-- The owner of a session, joined with the member row. -/
def Db.sessionUser (db : Db) (token : String) : Option (String × ApprovalStatus) :=
  (db.sessions.find? token).bind fun session =>
    (db.users.find? session.publicKey).map fun user => (session.publicKey, user.approvalStatus)

/-- `SELECT public_key FROM bot_tokens WHERE token = ?`, with the status that bot
tokens count as. -/
def Db.botTokenUser (db : Db) (token : String) : Option (String × ApprovalStatus) :=
  (db.botTokens.find? token).map fun row => (row.publicKey, .approved)

/-- `SELECT COUNT(*) > 0 FROM subkey_revocations WHERE subkey_pubkey = ?`. -/
def Db.isRevoked (db : Db) (publicKey : String) : Bool :=
  db.subkeyRevocations.rows.any (·.subkeyPubkey = publicKey)

/-- The owner of an opaque token: a session, or else a bot token. -/
def tokenOwner (token : String) : Handler (String × ApprovalStatus) := do
  let session ← fetch (·.sessionUser token)
  match session with
  | some owner => pure owner
  | none => do
      let bot ← fetch (·.botTokenUser token)
      .ofExcept (bot.elim (.error ⟨.unauthorized, "Invalid or expired token"⟩) .ok)

def opaqueIdentity (path token : String) : Handler String := do
  let (publicKey, approvalStatus) ← tokenOwner token
  let revoked ← fetch (·.isRevoked publicKey)
  .ensure (¬ revoked) ⟨.unauthorized, "Key has been revoked"⟩
  .ensure (approvalStatus = .pending → path ∈ pendingAllowedPaths)
    ⟨.forbidden, "Account is pending admin approval"⟩
  pure publicKey

/-! ## The extractors -/

/-- `AuthUser::from_request_parts`. -/
def authUser (lib : Crates) (env : AuthEnv) (req : AuthRequest) : Handler String := do
  let token ← .ofExcept (bearerToken req)
  if isFarmToken token then do
    let publicKey ← farmIdentity lib env token
    farmAdmission env.now req.path publicKey
    pure publicKey
  else opaqueIdentity req.path token

/-- `ws_handler`, up to the upgrade of the connection. -/
def wsHandler (token : String) : Handler String := do
  let publicKey ← fetch fun db => (db.sessions.find? token).map (·.publicKey)
  match publicKey with
  | none => .fail ⟨.unauthorized, "Invalid token"⟩
  | some publicKey => do
      let revoked ← fetch (·.isRevoked publicKey)
      .ensure (¬ revoked) ⟨.unauthorized, "Key has been revoked"⟩
      pure publicKey

/-! ## Revocations -/

/-- The row that a revocation entry is stored as. -/
def revocationRow (registeredAt : Int) (entry : RevocationEntry) : SubkeyRevocationRow :=
  ⟨entry.masterPubkey, entry.subkeyPubkey, entry.revokedAt.toInt64.toInt, entry.signature,
    registeredAt⟩

/-- `INSERT INTO subkey_revocations … ON CONFLICT DO NOTHING`. -/
def insertRevocation (row : SubkeyRevocationRow) (db : Db) : Db :=
  { db with subkeyRevocations := db.subkeyRevocations.insertOrIgnore row }

/-- `post_revocation`: anybody may hand in an entry that its master signed. -/
def postRevocation (lib : Crates) (registeredAt : Int) (master : String) (entry : RevocationEntry) :
    Handler StatusCode := do
  .ensure (entry.masterPubkey = master)
    ⟨.badRequest, "master_pubkey mismatch between URL and body"⟩
  .ofExcept ((entry.verify lib.ed25519).mapError fun e => ⟨.badRequest, "Bad signature: " ++ e⟩)
  write (insertRevocation (revocationRow registeredAt entry))
  pure .ok

end Voxply.Hub
