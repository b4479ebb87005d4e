/-
# Logging in

A client asks for a challenge, signs it and sends the signature back.  `verify`
takes the pending challenge, checks the answer, resolves the identity the key
stands for, lets bots register, asks the admission gates, writes the member row
and the session, and only then looks at invite codes, roles and challenge
tokens.  The statements are sent one by one: whatever was written before a gate
refuses stays written.

The handler is cut into its stages, each under a name of its own.  Clock
readings and random bytes are arguments.
-/

import Voxply.Hub.Certs
import Voxply.Hub.Roles

namespace Voxply.Hub

open Voxply.Math Voxply.Identity

/-! ## Requests -/

structure PowProof where
  level : ℕ
  nonce : String
  deriving DecidableEq

structure BotCommandDef where
  name : String
  description : String
  args : Option String := none
  scope : Option String := none
  privileged : Option Bool := none
  cooldownSeconds : Option Int := none
  deriving DecidableEq

structure BotMeta where
  name : String
  avatarUrl : Option String := none
  webhookUrl : Option String := none
  description : Option String := none
  homepageUrl : Option String := none
  commands : Option (List BotCommandDef) := none
  capabilities : Option (List String) := none
  deriving DecidableEq

structure VerifyRequest where
  publicKey : String
  challenge : String
  signature : String
  inviteCode : Option String := none
  securityNonce : Option UInt64 := none
  securityLevel : Option ℕ := none
  powProof : Option PowProof := none
  subkeyCert : Option SubkeyCert := none
  challengeToken : Option String := none
  isBot : Option Bool := none
  botMeta : Option BotMeta := none
  certifications : Option (List Certification) := none
  deriving DecidableEq

structure VerifyResponse where
  token : String
  scope : String
  deriving DecidableEq

/-- What the surroundings supply during one login: the monotonic clock, the
readings of the wall clock in the order they are taken, and the random bytes of
the session token. -/
structure LoginEnv where
  instant : ℕ
  metaNow : Int
  certNow : Int
  now : Int
  inviteNow : Int
  tokenBytes : List UInt8
  deriving DecidableEq

/-- The session token a login hands out. -/
def LoginEnv.token (env : LoginEnv) : String :=
  hexEncode env.tokenBytes

/-- The request that answers a challenge with a recorded signature. -/
def VerifyRequest.ofRecorded (answer : RecordedSignature) (subkeyCert : Option SubkeyCert := none) :
    VerifyRequest where
  publicKey := answer.publicKeyHex
  challenge := hexEncode answer.message
  signature := answer.signatureHex
  subkeyCert := subkeyCert

/-- A login during which every clock shows `now` and every random byte is
`byte`. -/
def LoginEnv.fixed (now : Int) (byte : UInt8) : LoginEnv :=
  ⟨0, now, now, now, now, .replicate 32 byte⟩

/-! ## Challenges -/

def AppState.setChallenge (s : AppState) (publicKey : String) (pending : Option PendingChallenge) :
    AppState :=
  { s with
    pendingChallenges := fun key => if key = publicKey then pending else s.pendingChallenges key }

/-- `challenge`: a fresh challenge replaces the one that was pending. -/
def challenge (challengeBytes : List UInt8) (instant : ℕ) (publicKey : String) :
    Handler (StatusCode × String) := do
  .exec fun s => s.setChallenge publicKey (some ⟨challengeBytes, instant + 60⟩)
  pure (.ok, hexEncode challengeBytes)

/-- Remove the pending challenge of a key from the map. -/
def takeChallenge (publicKey : String) : Handler PendingChallenge := do
  let pending ← .step (fun s => s.setChallenge publicKey none)
    fun s => .ret (s.pendingChallenges publicKey)
  .ofExcept (pending.elim (.error ⟨.unauthorized, "No pending challenge for this key"⟩) .ok)

/-- The checks that `verify` and `renew` share: the challenge is current and the
one that was issued, and the signature is hexadecimal text. -/
def answeredChallenge (instant : ℕ) (challenge signature : String) (pending : PendingChallenge) :
    Except ApiError (List UInt8 × List UInt8) :=
  if instant > pending.expiresAt then .error ⟨.unauthorized, "Challenge expired"⟩
  else match hexDecode challenge with
    | none => .error ⟨.badRequest, "Invalid challenge hex"⟩
    | some challengeBytes =>
        if challengeBytes ≠ pending.challengeBytes then
          .error ⟨.unauthorized, "Challenge mismatch"⟩
        else match hexDecode signature with
          | none => .error ⟨.badRequest, "Invalid signature hex"⟩
          | some signatureBytes => .ok (challengeBytes, signatureBytes)

/-- `verify_signature` with the handler's error. -/
def checkLoginSignature (E : Ed25519) (publicKey : String)
    (challengeBytes signatureBytes : List UInt8) : Except ApiError Unit :=
  (verifySignature E publicKey challengeBytes signatureBytes).mapError
    fun _ => ⟨.unauthorized, "Invalid signature"⟩

/-- The first stage of `verify`. -/
def answerChallenge (lib : Crates) (env : LoginEnv) (req : VerifyRequest) : Handler Unit := do
  let pending ← takeChallenge req.publicKey
  let (challengeBytes, signatureBytes) ←
    .ofExcept (answeredChallenge env.instant req.challenge req.signature pending)
  .ofExcept (checkLoginSignature lib.ed25519 req.publicKey challengeBytes signatureBytes)

/-! ## Canonical identity -/

/-- `SELECT public_key FROM users WHERE master_pubkey = ?`. -/
def Db.userOfMaster (db : Db) (master : String) : Option String :=
  (db.users.rows.find? (·.masterPubkey = some master)).map (·.publicKey)

/-- `SELECT public_key FROM users WHERE public_key = ? AND master_pubkey IS NULL`. -/
def Db.legacyUser (db : Db) (publicKey : String) : Option String :=
  ((db.users.find? publicKey).filter (·.masterPubkey = none)).map (·.publicKey)

/-- The checks on a presented certificate: its own signature, and that it is
about the key that signed the challenge. -/
def checkCert (E : Ed25519) (authPubkey : String) : Option SubkeyCert → Except ApiError Unit
  | none => .ok ()
  | some cert =>
      match cert.verify E with
      | .error e => .error ⟨.unauthorized, "Invalid cert: " ++ e⟩
      | .ok () =>
          if cert.subkeyPubkey ≠ authPubkey then
            .error ⟨.unauthorized, "Cert subkey_pubkey doesn't match auth pubkey"⟩
          else .ok ()

/-- `resolve_canonical_identity`: the canonical key and the master to record. -/
def resolveCanonicalIdentity (lib : Crates) (authPubkey : String) (cert : Option SubkeyCert) :
    Handler (String × Option String) := do
  .ofExcept (checkCert lib.ed25519 authPubkey cert)
  match cert with
  | none => pure (authPubkey, none)
  | some cert => do
      -- Existing multi-device user?
      let existing ← fetch (·.userOfMaster cert.masterPubkey)
      match existing with
      | some canonical => pure (canonical, some cert.masterPubkey)
      | none => do
          -- Legacy user upgrading? Otherwise a brand-new paired device.
          let legacy ← fetch (·.legacyUser authPubkey)
          pure (legacy.getD cert.masterPubkey, some cert.masterPubkey)

/-! ## Bots -/

/-- `SELECT approval_status FROM users WHERE public_key = ? AND is_bot = 1`. -/
def Db.botStatus (db : Db) (publicKey : String) : Option ApprovalStatus :=
  ((db.users.find? publicKey).filter (·.isBot)).map (·.approvalStatus)

/-- `UPDATE users SET … WHERE public_key = ?`. -/
def updateUser (publicKey : String) (f : UserRow → UserRow)
    (hkey : ∀ row, (f row).publicKey = row.publicKey) (db : Db) : Db :=
  { db with users := db.users.update (·.publicKey = publicKey) f hkey }

/-- The profile row that a bot's metadata describes. -/
def BotMeta.profile (lib : Crates) (canonical : String) (now : Int) (botMeta : BotMeta) :
    BotProfileRow :=
  ⟨canonical, botMeta.name, botMeta.avatarUrl, botMeta.description, botMeta.webhookUrl,
    botMeta.homepageUrl, lib.capabilitiesJson (botMeta.capabilities.getD []), now⟩

/-- The command row that a definition describes, with its defaults. -/
def BotCommandDef.row (canonical : String) (cmd : BotCommandDef) : BotCommandRow :=
  ⟨canonical, cmd.name, cmd.description, cmd.args, cmd.scope.getD "channel",
    cmd.privileged.getD false, cmd.cooldownSeconds.getD 3⟩

/-- `INSERT INTO bot_profiles … ON CONFLICT(pubkey) DO UPDATE`: every column but
the key is taken from the new row. -/
def upsertBotProfile (row : BotProfileRow) (db : Db) : Db :=
  { db with
    botProfiles := db.botProfiles.upsert row
      (fun old => { row with pubkey := old.pubkey }) fun _ => rfl }

/-- `DELETE FROM bot_commands WHERE pubkey = ?`. -/
def deleteBotCommands (pubkey : String) (db : Db) : Db :=
  { db with botCommands := db.botCommands.keep (·.pubkey ≠ pubkey) }

/-- `INSERT INTO bot_commands`. -/
def insertBotCommand (row : BotCommandRow) (db : Db) : Except SqlError Db :=
  match db.botCommands.insert? row with
  | none => .error (.primaryKey "bot_commands.pubkey, bot_commands.name")
  | some botCommands => .ok { db with botCommands := botCommands }

/-- Store a bot's profile and commands and approve it. -/
def registerBot (lib : Crates) (env : LoginEnv) (canonical : String) (botMeta : BotMeta) :
    Handler Unit := do
  write (upsertBotProfile (botMeta.profile lib canonical env.metaNow))
  .whenSome botMeta.commands fun cmds => do
    write (deleteBotCommands canonical)
    .each cmds fun cmd => execute (insertBotCommand (cmd.row canonical))
  write (updateUser canonical (fun row => { row with approvalStatus := .approved }) fun _ => rfl)

/-- The bot gate: bots need a row that an invitation created, and may then
describe themselves. -/
def botGate (lib : Crates) (env : LoginEnv) (req : VerifyRequest) (canonical : String) :
    Handler Unit :=
  .when (req.isBot = some true) do
    let status ← fetch (·.botStatus canonical)
    .ensure (status = some .botPending ∨ status = some .approved)
      ⟨.forbidden, "bot_not_invited"⟩
    write (updateUser canonical (fun row => { row with isBot := true }) fun _ => rfl)
    .whenSome req.botMeta (registerBot lib env canonical)

/-! ## Admission gates -/

/-- `is_banned`. -/
def isBanned (publicKey : String) : Handler Bool :=
  fetch (·.bans.has publicKey)

def Db.minSecurityLevel (db : Db) : ℕ :=
  ((db.setting "min_security_level").bind (parseUnsigned (2 ^ 32))).getD 0

def Db.minPowLevel (db : Db) : ℕ :=
  ((db.setting "min_pow_level").bind (parseUnsigned (2 ^ 8))).getD 0

/-- The proof of work claimed through `security_level`. -/
def checkSecurityLevel (lib : Crates) (req : VerifyRequest) (minLevel : ℕ) : Except ApiError Unit :=
  if minLevel > 0 then
    let claimedLevel := req.securityLevel.getD 0
    if claimedLevel < minLevel then
      .error ⟨.forbidden, "Security level " ++ toString claimedLevel ++ " is below minimum " ++
        toString minLevel⟩
    else if ¬ verifySecurityLevel lib.sha256 req.publicKey (req.securityNonce.getD 0)
        claimedLevel then
      .error ⟨.forbidden, "Invalid security level proof"⟩
    else .ok ()
  else .ok ()

/-- The structured proof of work. -/
def checkPowProof (lib : Crates) (req : VerifyRequest) (minPowLevel : ℕ) : Except ApiError Unit :=
  if minPowLevel > 0 then
    match req.powProof with
    | none => .error ⟨.forbidden, "pow_required"⟩
    | some proof =>
        if proof.level < minPowLevel then .error ⟨.forbidden, "pow_required"⟩
        else match parseUnsigned (2 ^ 64) proof.nonce with
          | none => .error ⟨.badRequest, "Invalid pow_proof nonce"⟩
          | some nonce =>
              if verifySecurityLevel lib.sha256 req.publicKey (UInt64.ofNat nonce) proof.level then
                .ok ()
              else .error ⟨.forbidden, "pow_required"⟩
  else .ok ()

/-- The certification gate; the settings are only read when it is on. -/
def certGate (lib : Crates) (env : LoginEnv) (req : VerifyRequest) : Handler Unit := do
  let mode ← loadCertMode
  .when (mode ≠ "none") do
    let trustedIssuers ← loadTrustedIssuers lib
    let certRequire ← loadCertRequire lib
    let masterPk := (req.subkeyCert.map (·.masterPubkey)).getD req.publicKey
    .ensure ((req.certifications.getD []).any
        (certSatisfies lib env.certNow mode masterPk trustedIssuers certRequire))
      ⟨.forbidden, "cert_required"⟩

/-- Ban, security level, proof of work and certification, in this order. Returns
the minimum security level, which the scope depends on. -/
def admissionGates (lib : Crates) (env : LoginEnv) (req : VerifyRequest) (canonical : String) :
    Handler ℕ := do
  let banned ← isBanned canonical
  .ensure (¬ banned) ⟨.forbidden, "User is banned"⟩
  let minLevel ← fetch (·.minSecurityLevel)
  .ofExcept (checkSecurityLevel lib req minLevel)
  let minPowLevel ← fetch (·.minPowLevel)
  .ofExcept (checkPowProof lib req minPowLevel)
  certGate lib env req
  pure minLevel

/-! ## Member row and session -/

/-- The status a new member gets. The first user of a hub needs no approval. -/
def initialStatus (requireApproval : Bool) (existingUsers : ℕ) : ApprovalStatus :=
  if requireApproval ∧ existingUsers > 0 then .pending else .approved

/-- The `users` upsert of `verify`: an existing row only gets its last visit, and
a master if it has none. -/
def upsertUser (canonical : String) (now : Int) (status : ApprovalStatus)
    (master : Option String) (db : Db) : Db :=
  { db with
    users := db.users.upsert
      { publicKey := canonical, firstSeenAt := now, lastSeenAt := now, approvalStatus := status,
        masterPubkey := master }
      (fun old => { old with lastSeenAt := now, masterPubkey := old.masterPubkey.or master })
      fun _ => rfl }

/-- `INSERT INTO sessions`. -/
def insertSession (row : SessionRow) (db : Db) : Except SqlError Db :=
  match db.sessions.insert? row with
  | none => .error (.primaryKey "sessions.token")
  | some sessions =>
      if db.users.has row.publicKey then .ok { db with sessions := sessions }
      else .error .foreignKey

/-- Write the member row and the session. -/
def enroll (env : LoginEnv) (canonical : String) (master : Option String) : Handler Unit := do
  let requireApproval ← fetch fun db => decide (db.setting "require_approval" = some "true")
  let existingUsers ← fetch (·.users.rows.length)
  write (upsertUser canonical env.now (initialStatus requireApproval existingUsers) master)
  execute (insertSession ⟨env.token, canonical, env.now⟩)

/-! ## Invites, roles and challenge tokens -/

/-- `SELECT COUNT(*) FROM user_roles WHERE user_public_key = ?`. -/
def Db.roleCount (db : Db) (publicKey : String) : ℕ :=
  (db.userRoles.rows.filter (·.userPublicKey = publicKey)).length

def Db.isInviteOnly (db : Db) : Bool :=
  db.setting "invite_only" = some "true"

/-- The checks of `validate_and_use_invite` on the stored invite. -/
def checkInvite (now : Int) (invite : Option InviteRow) : Except ApiError Unit :=
  match invite with
  | none => .error ⟨.forbidden, "Invalid invite code"⟩
  | some invite =>
      if invite.expiresAt.any (now > ·) then .error ⟨.forbidden, "Invite code has expired"⟩
      else if invite.maxUses.any (· ≤ invite.uses) then
        .error ⟨.forbidden, "Invite code has been used up"⟩
      else .ok ()

/-- `UPDATE invites SET uses = uses + 1 WHERE code = ?`. -/
def useInvite (code : String) (db : Db) : Db :=
  { db with
    invites := db.invites.update (·.code = code) (fun row => { row with uses := row.uses + 1 })
      fun _ => rfl }

def validateAndUseInvite (now : Int) (code : String) : Handler Unit := do
  let invite ← fetch (·.invites.find? code)
  .ofExcept (checkInvite now invite)
  write (useInvite code)

/-- The invite gate, for users without roles. -/
def inviteGate (env : LoginEnv) (req : VerifyRequest) (canonical : String) : Handler Unit := do
  let hasRoles ← fetch (·.roleCount canonical)
  .when (hasRoles = 0) do
    let inviteOnly ← fetch (·.isInviteOnly)
    .when (inviteOnly = true) <| match req.inviteCode with
      | some code => validateAndUseInvite env.inviteNow code
      | none => .fail ⟨.forbidden, "This hub requires an invite code"⟩

/-- Roles for new users: the first one becomes the owner. -/
def assignRoles (env : LoginEnv) (canonical : String) : Handler Unit := do
  let hasRoles ← fetch (·.roleCount canonical)
  .when (hasRoles = 0) do
    let ownerExists ← fetch fun db => db.userRoles.rows.any (·.roleId = "builtin-owner")
    .when (ownerExists = false) do
      execute (insertUserRole ⟨canonical, "builtin-owner", env.now⟩)
    execute (insertUserRoleOrIgnore ⟨canonical, "builtin-everyone", env.now⟩)

/-- The checks on a stored challenge token. -/
def checkChallengeToken (now : Int) (publicKey : String) (row : Option ChallengeTokenRow) :
    Except ApiError Unit :=
  match row with
  | none => .error ⟨.forbidden, "Invalid challenge token"⟩
  | some row =>
      if row.consumedAt.isSome then .error ⟨.forbidden, "Challenge token already used"⟩
      else if now > row.expiresAt then .error ⟨.forbidden, "Challenge token expired"⟩
      else if row.pubkey ≠ publicKey then
        .error ⟨.forbidden, "Challenge token pubkey mismatch"⟩
      else .ok ()

/-- `UPDATE challenge_tokens SET consumed_at = ? WHERE token = ?`. -/
def consumeChallengeToken (token : String) (now : Int) (db : Db) : Db :=
  { db with
    challengeTokens := db.challengeTokens.update (·.token = token)
      (fun row => { row with consumedAt := some now }) fun _ => rfl }

def Db.challengeMode (db : Db) : String :=
  (db.setting "challenge_mode").getD "off"

/-- The bot-challenge gate. -/
def challengeGate (env : LoginEnv) (req : VerifyRequest) : Handler Unit := do
  let mode ← fetch (·.challengeMode)
  .when (mode ≠ "off") <| match req.challengeToken with
    | none => .fail ⟨.forbidden, "Challenge token required"⟩
    | some token => do
        let row ← fetch (·.challengeTokens.find? token)
        .ofExcept (checkChallengeToken env.now req.publicKey row)
        write (consumeChallengeToken token env.now)

/-- The scope of the session: members below the minimum level wait in the
lobby. The stored level is cast to 32 bits. -/
def sessionScope (canonical : String) (minLevel : ℕ) : Handler String := do
  let lobbyEnabled ← fetch fun db =>
    ((db.setting "lobby_enabled").map fun value => decide (value = "1")).getD true
  let powLevel ← fetch fun db =>
    (((db.users.find? canonical).map UserRow.powLevel).getD 0 % 2 ^ 32).toNat
  pure (if lobbyEnabled = true ∧ powLevel < minLevel then "lobby" else "member")

/-! ## The handlers -/

/-- The part of `verify` before the member row is written: the canonical key,
the master to record and the minimum security level. -/
def checkLogin (lib : Crates) (env : LoginEnv) (req : VerifyRequest) :
    Handler (String × Option String × ℕ) := do
  answerChallenge lib env req
  let (canonical, master) ← resolveCanonicalIdentity lib req.publicKey req.subkeyCert
  botGate lib env req canonical
  let minLevel ← admissionGates lib env req canonical
  pure (canonical, master, minLevel)

/-- The part of `verify` from the member row on. -/
def completeLogin (env : LoginEnv) (req : VerifyRequest) (canonical : String)
    (master : Option String) (minLevel : ℕ) : Handler VerifyResponse := do
  enroll env canonical master
  inviteGate env req canonical
  assignRoles env canonical
  challengeGate env req
  let scope ← sessionScope canonical minLevel
  pure ⟨env.token, scope⟩

/-- `verify`. -/
def verify (lib : Crates) (env : LoginEnv) (req : VerifyRequest) : Handler VerifyResponse := do
  let (canonical, master, minLevel) ← checkLogin lib env req
  completeLogin env req canonical master minLevel

/-- `renew`, for a caller that the extractor has authenticated. -/
def renew (lib : Crates) (env : LoginEnv) (user : String) (req : VerifyRequest) :
    Handler VerifyResponse := do
  let pending ← takeChallenge req.publicKey
  let (challengeBytes, signatureBytes) ←
    .ofExcept (answeredChallenge env.instant req.challenge req.signature pending)
  .ensure (req.publicKey = user)
    ⟨.forbidden, "Renew pubkey does not match authenticated identity"⟩
  .ofExcept (checkLoginSignature lib.ed25519 req.publicKey challengeBytes signatureBytes)
  execute (insertSession ⟨env.token, user, env.now⟩)
  pure ⟨env.token, "member"⟩

end Voxply.Hub
