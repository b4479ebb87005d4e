/-
# The life of a bot

An administrator invites a bot, the bot accepts by signing the token of the invite, and an
administrator can remove it again.  Removal sets a flag of the member row.  The slash
commands and the list of bots look at the flag; the login, the extractor and the events do
not, and no invite takes the flag back.

The runs are of calls that are completed one after another, from the start of the hub: no
socket is open then.  Next to the state of the hub they keep what has become of each bot.
-/

import Voxply.Hub.AuditSequence
import Voxply.Hub.BotDispatch
import Voxply.Hub.LoginWrites
import Voxply.Hub.Revocation
import Voxply.Hub.VerifyAtomicity

namespace Voxply.Hub

open Voxply.Math Voxply.Identity

/-! ## Invites -/

/-- What the surroundings supply while a bot is invited. -/
structure BotInviteEnv where
  now : Int
  tokenBytes : List UInt8

/-- `INSERT OR IGNORE INTO users`. -/
def insertPendingBot (pubkey : String) (now : Int) (db : Db) : Db :=
  { db with
    users := db.users.insertOrIgnore
      { publicKey := pubkey, firstSeenAt := now, lastSeenAt := now, approvalStatus := .botPending,
        isBot := true } }

/-- `UPDATE users SET bot_invite_token = ?, bot_invite_expires = ? WHERE public_key = ?`. -/
def setBotInvite (row : BotInviteRow) (db : Db) : Db :=
  { db with botInvites := if db.users.has row.publicKey then db.botInvites.replace row
      else db.botInvites }

/-- 64 ASCII hexadecimal digits. -/
def isHexPubkey (pubkey : String) : Bool :=
  pubkey.utf8ByteSize = 64 ∧ pubkey.toList.all fun c => c.isDigit ∨ c.toLower ∈ "abcdef".toList

/-- `ext_invite_bot`: the token of the invite. -/
def extInviteBot (env : BotInviteEnv) (user pubkey : String) : Handler String := do
  let perms ← userPermissions user
  .ensure (perms.has manageRoles = true ∨ perms.has admin = true)
    ⟨.forbidden, "Missing permission: manage_roles"⟩
  .ensure (isHexPubkey pubkey = true) ⟨.badRequest, "pubkey must be 64 hex characters"⟩
  write (insertPendingBot pubkey env.now)
  let token := hexEncode env.tokenBytes
  write (setBotInvite ⟨pubkey, token, some (env.now + 86400)⟩)
  pure token

structure AcceptInviteRequest where
  pubkey : String
  signatureOverToken : String
  botMeta : BotMeta

/-- `SELECT bot_invite_token, bot_invite_expires FROM users WHERE public_key = ? AND
is_bot = 1`: the row of a bot, and the invite in it if there is one. -/
def Db.botInvite (db : Db) (pubkey : String) : Option (Option BotInviteRow) :=
  ((db.users.find? pubkey).filter (·.isBot)).map fun _ => db.botInvites.find? pubkey

/-- The checks of `ext_accept_invite` on what it has found. -/
def checkBotInvite (E : Ed25519) (now : Int) (req : AcceptInviteRequest) :
    Option (Option BotInviteRow) → Except ApiError Unit
  | none => .error ⟨.notFound, "Bot not found or not invited"⟩
  | some none => .error ⟨.notFound, "No pending invite for this bot"⟩
  | some (some invite) =>
      if invite.expires.any (now > ·) then .error ⟨.gone, "Invite token has expired"⟩
      else match hexDecode req.signatureOverToken with
        | none => .error ⟨.badRequest, "Invalid signature hex"⟩
        | some signature =>
            match verifySignature E req.pubkey (asBytes invite.token) signature with
            | .error _ => .error ⟨.unauthorized, "Invalid signature over invite token"⟩
            | .ok () => .ok ()

/-- `UPDATE users SET approval_status = 'approved', bot_invite_token = NULL,
bot_invite_expires = NULL WHERE public_key = ?`. -/
def approveBot (pubkey : String) (db : Db) : Db :=
  { updateUser pubkey (fun row => { row with approvalStatus := .approved })
    publicKey_approved db with botInvites := db.botInvites.keep (·.publicKey ≠ pubkey) }

/-- `ext_accept_invite`. -/
def extAcceptInvite (lib : Crates) (now : Int) (req : AcceptInviteRequest) : Handler String := do
  let found ← fetch (·.botInvite req.pubkey)
  .ofExcept (checkBotInvite lib.ed25519 now req found)
  write (approveBot req.pubkey)
  write (upsertBotProfile (req.botMeta.profile lib req.pubkey now))
  .whenSome req.botMeta.commands fun cmds => do
    write (deleteBotCommands req.pubkey)
    .each cmds fun cmd => execute (insertBotCommand (cmd.row req.pubkey))
  pure "accepted"

/-- `UPDATE users SET is_bot_removed = 1 WHERE public_key = ? AND is_bot = 1`. -/
def markBotRemoved (pubkey : String) (db : Db) : Db :=
  { db with removedBots := if (db.botStatus pubkey).isSome then db.removedBots.insert pubkey
      else db.removedBots }

/-- `ext_remove_bot`. -/
def extRemoveBot (user pubkey : String) : Handler Unit := do
  let perms ← userPermissions user
  .ofExcept (perms.require admin)
  write (markBotRemoved pubkey)

/-! ## The list of bots -/

structure BotCommandSummary where
  name : String
  description : String
  deriving DecidableEq

structure BotListEntry where
  pubkey : String
  name : String
  avatarUrl : Option String
  description : Option String
  lastSeenAt : Option Int
  webhookUrl : Option String
  commands : List BotCommandSummary
  deriving DecidableEq

/-- `SELECT name, description FROM bot_commands WHERE pubkey = ? ORDER BY name`. -/
def Db.commandSummaries (db : Db) (pubkey : String) : List BotCommandSummary :=
  ((db.botCommands.rows.filter (·.pubkey = pubkey)).insertionSort fun a b => a.name ≤ b.name).map
    fun row => ⟨row.name, row.description⟩

/-- The rows of `ext_list_bots`. -/
def Db.listBots (db : Db) : List BotListEntry :=
  (db.users.rows.filter fun user => user.isBot ∧ user.publicKey ∉ db.removedBots).filterMap
    fun user => (db.botProfiles.find? user.publicKey).map fun profile =>
      ⟨user.publicKey, profile.name, profile.avatarUrl, profile.description, some user.lastSeenAt,
        profile.webhookUrl, db.commandSummaries user.publicKey⟩

def extListBots : Handler (List BotListEntry) :=
  fetch Db.listBots

/-! ## Sockets of bots -/

/-- Whom a connection belongs to, and whether that was a bot when it was opened. -/
structure BotConn where
  publicKey : String
  isBot : Bool
  deriving DecidableEq

/-- What has become of a bot since its last removal. -/
inductive BotStanding where
  | present
  | removed
  /-- There is an invite from after the removal. -/
  | reinvited
  /-- Such an invite has been accepted. -/
  | back
  deriving DecidableEq

def BotStanding.onInvite : BotStanding → BotStanding
  | .removed => .reinvited
  | standing => standing

def BotStanding.onAccept : BotStanding → BotStanding
  | .reinvited => .back
  | standing => standing

def BotStanding.isShutOut : BotStanding → Bool
  | .removed | .reinvited => true
  | .present | .back => false

/-- The hub, its sockets, and what has become of the bots. -/
structure BotServer where
  app : AppState
  sockets : ℕ → Option BotConn := fun _ => none
  standing : String → BotStanding := fun _ => .present

/-- The start of the hub. -/
def BotServer.started (app : AppState) : BotServer where
  app := { app with botSessions := fun _ => none, botQueues := fun _ => [] }

/-- The hub after a request, with what it has made of a bot if it was granted. -/
def BotServer.after {A : Type} (h : BotServer) (answer : Except ApiError A × AppState)
    (pubkey : String) (standing : BotStanding) : BotServer where
  app := answer.2
  sockets := h.sockets
  standing := if answer.1.isOk then Function.update h.standing pubkey standing else h.standing

/-- A socket is opened for a key. The hub keeps the queues of bots by their keys. -/
def BotServer.open (h : BotServer) (conn : ℕ) (publicKey : String) : BotServer :=
  let isBot := (h.app.db.botStatus publicKey).isSome
  { h with
    app := { h.app with
      botSessions := if isBot then Function.update h.app.botSessions publicKey (some conn)
        else h.app.botSessions
      botQueues := Function.update h.app.botQueues conn [] }
    sockets := Function.update h.sockets conn (some ⟨publicKey, isBot⟩) }

/-- A socket is closed. -/
def BotServer.close (h : BotServer) (conn : ℕ) (owner : BotConn) : BotServer :=
  { h with
    app := { h.app with
      botSessions := if owner.isBot then Function.update h.app.botSessions owner.publicKey none
        else h.app.botSessions }
    sockets := Function.update h.sockets conn none }

/-! ## Runs -/

inductive BotCall where
  | invite (env : BotInviteEnv) (user pubkey : String)
  | accept (now : Int) (req : AcceptInviteRequest)
  | remove (user pubkey : String)
  | login (call : LoginCall)
  | connect (conn : ℕ) (token : String)
  | disconnect (conn : ℕ)
  /-- The socket takes a frame from its queue. -/
  | receive (conn : ℕ)
  | publish (env : PublishEnv) (event : HubEvent)

variable (lib : Crates) (readCaps : String → Option (List String))

def BotCall.exec : BotCall → BotServer → BotServer
  | .invite env user pubkey, h =>
      h.after ((extInviteBot env user pubkey).run h.app) pubkey (h.standing pubkey).onInvite
  | .accept now req, h =>
      h.after ((extAcceptInvite lib now req).run h.app) req.pubkey (h.standing req.pubkey).onAccept
  | .remove user pubkey, h =>
      h.after ((extRemoveBot user pubkey).run h.app) pubkey
        -- The statement finds no row of anybody who is not a bot.
        (if (h.app.db.botStatus pubkey).isSome then .removed else h.standing pubkey)
  | .login call, h => { h with app := call.exec lib h.app }
  | .connect conn token, h =>
      match h.sockets conn, ((wsHandler token).run h.app).1 with
      | none, .ok publicKey => h.open conn publicKey
      | _, _ => h
  | .disconnect conn, h => (h.sockets conn).elim h (h.close conn)
  | .receive conn, h =>
      { h with app := { h.app with
          botQueues := Function.update h.app.botQueues conn (h.app.botQueues conn).tail } }
  | .publish env event, h => { h with app := ((publishHubEvent readCaps env event).run h.app).2 }

/-! ## What is to hold -/

/-- The extractor lets the bot in with one of its sessions. A token with a dot in it is not
looked for among the sessions. -/
def AcceptsSessionOf (s : AppState) (bot : String) : Prop :=
  ∃ row ∈ s.db.sessions.rows, row.publicKey = bot ∧ isFarmToken row.token = false ∧
    ∃ env path, ((authUser lib env (.bearing row.token path)).run s).1 = .ok bot

/-- A call does nothing for a bot that is shut out: no login by the bot succeeds, be it
with its key or as its member, and no event is put into the queue of a socket of it. -/
structure BotCall.Right (call : BotCall) (h : BotServer) : Prop where
  login : ∀ env req, call = .login (.verify env req) →
    (h.standing req.publicKey).isShutOut = true ∨
      (h.standing (canonicalKey req h.app.db)).isShutOut = true →
    ((verify lib env req).run h.app).1.isOk = false
  push : ∀ env event, call = .publish env event → ∀ conn owner, h.sockets conn = some owner →
    (h.standing owner.publicKey).isShutOut = true →
    (call.exec lib readCaps h).app.botQueues conn = h.app.botQueues conn

/-- No session of a bot that is shut out is accepted and no command is handled by it; a bot
that is back is on the list, and handles its commands in all its channels, unless another
bot has registered one of the same name. -/
structure BotServer.Right (h : BotServer) : Prop where
  sessions : ∀ bot, (h.standing bot).isShutOut = true → ¬ AcceptsSessionOf lib h.app bot
  commands : ∀ bot, (h.standing bot).isShutOut = true → ∀ command channelId,
    ∀ found ∈ h.app.db.matchedCommand command channelId, found.botPubkey ≠ bot
  listed : ∀ bot, h.standing bot = .back → ∃ entry ∈ h.app.db.listBots, entry.pubkey = bot
  dispatched : ∀ bot, h.standing bot = .back → ∀ row ∈ h.app.db.botCommands.rows,
    row.pubkey = bot → ∀ channelId, h.app.db.inScope bot (some channelId) = true →
    (∀ other ∈ h.app.db.botCommands.rows, other.name = row.name → other.pubkey = bot) →
    ∃ found ∈ h.app.db.matchedCommand row.name channelId, found.botPubkey = bot

/-- The whole of a run is right: its calls and the states it goes through. -/
structure BotsRight (calls : List BotCall) (app : AppState) : Prop where
  steps : Along (BotCall.exec lib readCaps) (BotCall.Right lib readCaps) calls (.started app)
  states : ∀ first, first <+: calls →
    (runAll (BotCall.exec lib readCaps) first (.started app)).Right lib

/-! ## When it holds -/

/-- The login gets as far as its session: no check that comes before refuses it, and the
token of the session is fresh. -/
def OpensSession (env : LoginEnv) (req : VerifyRequest) (s : AppState) : Prop :=
  ReachesEnrolment lib env req s ∧ ∀ row ∈ s.db.sessions.rows, row.token ≠ env.token

/-- What the hub does not see to itself. A bot that is removed has no session, or one whose
key is revoked; a bot that is shut out is refused at the login for some other reason, has
not subscribed from a socket that is still open, and does not accept its new invite. -/
def BotCall.Careful : BotCall → BotServer → Prop
  | .invite .., _ => True
  | .accept now req, h => h.standing req.pubkey = .reinvited →
      checkBotInvite lib.ed25519 now req (h.app.db.botInvite req.pubkey) ≠ .ok ()
  | .remove user pubkey, h => (h.app.db.userPermissions user).has admin = true →
      (h.app.db.botStatus pubkey).isSome = true → h.app.db.isRevoked pubkey = true ∨
        ∀ row ∈ h.app.db.sessions.rows, row.publicKey = pubkey → isFarmToken row.token = true
  | .login (.challenge ..), _ => True
  | .login (.verify env req), h => (h.standing req.publicKey).isShutOut = true ∨
      (h.standing (canonicalKey req h.app.db)).isShutOut = true → ¬ OpensSession lib env req h.app
  | .connect .., _ => True
  | .disconnect _, _ => True
  | .receive _, _ => True
  | .publish _ event, h => ∀ bot ∈ h.app.db.subscribers event.eventType event.channelId,
      (h.standing bot).isShutOut = true → h.app.botSessions bot = none ∨
        h.app.db.inScope bot event.channelId = false

/-- The same from the state at the removal on: a bot that is removed has no session and no open
socket. Nothing is asked when an event is published. -/
def BotCall.CutsOff : BotCall → BotServer → Prop
  | .remove user pubkey, h => (h.app.db.userPermissions user).has admin = true →
      (h.app.db.botStatus pubkey).isSome = true →
      (∀ row ∈ h.app.db.sessions.rows, row.publicKey ≠ pubkey) ∧
        ∀ conn owner, h.sockets conn = some owner → owner.publicKey ≠ pubkey
  | .publish _ _, _ => True
  | call, h => call.Careful lib h

variable {lib : Crates} {readCaps : String → Option (List String)} {s t : AppState}
    {hub : BotServer}

/-! ## What the calls leave alone -/

/-- Flags, revocations and the sockets of bots. No flag is taken back. -/
structure BotsKept (s t : AppState) : Prop where
  removedBots : ∀ bot ∈ s.db.removedBots, bot ∈ t.db.removedBots
  subkeyRevocations : t.db.subkeyRevocations = s.db.subkeyRevocations
  botSessions : t.botSessions = s.botSessions

/-- The sessions as well. -/
structure BotsAside (s t : AppState) : Prop extends BotsKept s t where
  sessions : t.db.sessions = s.db.sessions

theorem BotsKept.refl (s : AppState) : BotsKept s s :=
  ⟨fun _ h => h, rfl, rfl⟩

theorem BotsKept.trans (a b c : AppState) (hab : BotsKept a b) (hbc : BotsKept b c) :
    BotsKept a c :=
  ⟨fun bot h => hbc.removedBots bot (hab.removedBots bot h),
    hbc.subkeyRevocations.trans hab.subkeyRevocations, hbc.botSessions.trans hab.botSessions⟩

theorem BotsAside.refl (s : AppState) : BotsAside s s :=
  ⟨.refl s, rfl⟩

theorem BotsAside.trans (a b c : AppState) (hab : BotsAside a b) (hbc : BotsAside b c) :
    BotsAside a c :=
  ⟨hab.toBotsKept.trans _ _ _ hbc.toBotsKept, hbc.sessions.trans hab.sessions⟩

/-- A write to other tables. -/
theorem botsAside_withDb {db : Db} (hremoved : db.removedBots = s.db.removedBots)
    (hrevocations : db.subkeyRevocations = s.db.subkeyRevocations)
    (hsessions : db.sessions = s.db.sessions) : BotsAside s (s.withDb db) :=
  ⟨⟨fun _ h => hremoved ▸ h, hrevocations, rfl⟩, hsessions⟩

theorem changes_extInviteBot (env : BotInviteEnv) (user pubkey : String) :
    (extInviteBot env user pubkey).Changes BotsAside := by
  apply Prog.Changes.bind BotsAside.trans
  · intro s
    rw [run_userPermissions]
    exact .refl s
  intro perms
  apply Prog.Changes.bind BotsAside.trans (Prog.changes_ensure BotsAside.refl)
  intro _
  apply Prog.Changes.bind BotsAside.trans (Prog.changes_ensure BotsAside.refl)
  intro _
  apply Prog.Changes.bind BotsAside.trans
  · exact changes_write fun s => botsAside_withDb rfl rfl rfl
  intro _
  apply Prog.Changes.bind BotsAside.trans
  · exact changes_write fun s => botsAside_withDb rfl rfl rfl
  exact fun _ => Prog.changes_ret BotsAside.refl _

theorem changes_extAcceptInvite (lib : Crates) (now : Int) (req : AcceptInviteRequest) :
    (extAcceptInvite lib now req).Changes BotsAside := by
  apply Prog.Changes.bind BotsAside.trans (Prog.changes_query BotsAside.refl _)
  intro found
  apply Prog.Changes.bind BotsAside.trans (Prog.changes_ofExcept BotsAside.refl _)
  intro _
  apply Prog.Changes.bind BotsAside.trans
  · exact changes_write fun s => botsAside_withDb rfl rfl rfl
  intro _
  apply Prog.Changes.bind BotsAside.trans
  · exact changes_write fun s => botsAside_withDb rfl rfl rfl
  intro _
  apply Prog.Changes.bind BotsAside.trans
  · apply Prog.changes_whenSome BotsAside.refl
    intro cmds
    apply Prog.Changes.bind BotsAside.trans
    · exact changes_write fun s => botsAside_withDb rfl rfl rfl
    intro _
    apply Prog.changes_each BotsAside.refl BotsAside.trans
    intro cmd
    apply changes_execute BotsAside.refl
    intro s db hdb
    unfold insertBotCommand at hdb
    split at hdb
    · cases hdb
    · cases hdb
      exact botsAside_withDb rfl rfl rfl
  exact fun _ => Prog.changes_ret BotsAside.refl _

/-- A removal: it is refused, or sets the flag if it finds a bot. -/
theorem run_extRemoveBot (user pubkey : String) :
    (extRemoveBot user pubkey).run s =
      if (s.db.userPermissions user).has admin then (.ok (), s.withDb (markBotRemoved pubkey s.db))
      else (.error ⟨.forbidden, "Missing permission: admin"⟩, s) := by
  unfold extRemoveBot
  rw [Prog.run_bind_of_ok (run_userPermissions user s), Prog.run_bind', Prog.run_ofExcept,
    UserPermissions.require]
  split_ifs with hadmin
  · exact run_write _ s
  · rfl

theorem mem_removedBots_markBotRemoved {pubkey : String} {db : Db}
    (hbot : (db.botStatus pubkey).isSome = true) :
    pubkey ∈ (markBotRemoved pubkey db).removedBots := by
  simp [markBotRemoved, hbot]

theorem botsAside_markBotRemoved (pubkey : String) :
    BotsAside s (s.withDb (markBotRemoved pubkey s.db)) := by
  refine ⟨⟨fun bot hbot => ?_, rfl, rfl⟩, rfl⟩
  show bot ∈ (markBotRemoved pubkey s.db).removedBots
  unfold markBotRemoved
  dsimp only
  split_ifs
  · exact List.mem_insert_of_mem hbot
  · exact hbot

theorem botsKept_executed {f : Db → Except SqlError Db}
    (h : ∀ db, f s.db = .ok db → BotsKept s (s.withDb db)) : BotsKept s (executed f s) := by
  rcases executed_cases f s with hsame | ⟨db, hdb, hafter⟩
  · rw [hsame]
    exact .refl s
  · rw [hafter]
    exact h db hdb

theorem botsKept_insertUserRole {row : UserRoleRow} {db : Db}
    (h : insertUserRole row s.db = .ok db) : BotsKept s (s.withDb db) := by
  unfold insertUserRole at h
  split at h
  · cases h
  · split_ifs at h
    cases h
    exact ⟨fun _ h => h, rfl, rfl⟩

theorem LoginWrite.botsKept {statement : AppState → AppState} (h : LoginWrite statement)
    (s : AppState) : BotsKept s (statement s) := by
  cases h with
  | read => exact .refl s
  | take | user | profile | clearCommands | member => exact ⟨fun _ h => h, rfl, rfl⟩
  | command row =>
      apply botsKept_executed
      intro db hdb
      unfold insertBotCommand at hdb
      split at hdb
      · cases hdb
      · cases hdb
        exact ⟨fun _ h => h, rfl, rfl⟩
  | session row =>
      apply botsKept_executed
      intro db hdb
      unfold insertSession at hdb
      split at hdb
      · cases hdb
      · split_ifs at hdb
        cases hdb
        exact ⟨fun _ h => h, rfl, rfl⟩
  | role row => exact botsKept_executed fun db => botsKept_insertUserRole
  | roleOrIgnore row =>
      apply botsKept_executed
      intro db hdb
      unfold insertUserRoleOrIgnore at hdb
      split_ifs at hdb
      · cases hdb
        exact .refl s
      · exact botsKept_insertUserRole hdb

theorem LoginCall.botsKept (call : LoginCall) (s : AppState) : BotsKept s (call.exec lib s) := by
  cases call with
  | challenge challengeBytes instant publicKey => exact ⟨fun _ h => h, rfl, rfl⟩
  | verify env req =>
      have hverify : (Hub.verify lib env req).Follows (fun _ sent =>
          BotsKept sent.before sent.after) (fun _ _ => True) [] :=
        verify_writes _ (fun _ sent hsent => hsent.botsKept sent.before)
          (fun _ _ _ => ⟨fun _ h => h, rfl, rfl⟩) fun _ _ _ _ => ⟨fun _ h => h, rfl, rfl⟩
      exact hverify.run_rel BotsKept.refl BotsKept.trans (fun _ _ h => h) s

/-! ## Logins -/

/-- A login that succeeds has opened a session. -/
theorem opensSession_of_isOk {env : LoginEnv} {req : VerifyRequest}
    (h : ((verify lib env req).run s).1.isOk = true) : OpensSession lib env req s := by
  have hreaches := reachesEnrolment_of_isOk h
  refine ⟨hreaches, ?_⟩
  obtain ⟨master, minLevel, t, hframe, hrun⟩ := run_verify_of_reachesEnrolment hreaches
  have hsessions : t.db.sessions = s.db.sessions := hframe.sessions
  rw [hrun] at h
  unfold completeLogin at h
  rw [Prog.run_bind', run_enroll] at h
  cases hinsert : t.db.sessions.insert? ⟨env.token, canonicalKey req s.db, env.now⟩ with
  | none =>
      rw [hinsert] at h
      cases h
  | some sessions =>
      rw [← hsessions]
      exact (Table.insert?_eq_some_iff.mp hinsert).1

/-- A session that was not there before is of the one who has logged in. -/
theorem opensSession_of_new {call : LoginCall} {row : SessionRow}
    (hrow : row ∈ (call.exec lib s).db.sessions.rows) (hnew : row ∉ s.db.sessions.rows) :
    ∃ env req, call = .verify env req ∧ OpensSession lib env req s ∧
      row.publicKey = canonicalKey req s.db := by
  cases call with
  | challenge challengeBytes instant publicKey => exact absurd hrow hnew
  | verify env req =>
      obtain ⟨hreaches, hfresh, rfl⟩ := (newSession_iff hnew).mp hrow
      exact ⟨env, req, rfl, ⟨hreaches, hfresh⟩, rfl⟩

theorem not_acceptsSessionOf {bot : String} (h : s.db.isRevoked bot = true ∨
    ∀ row ∈ s.db.sessions.rows, row.publicKey = bot → isFarmToken row.token = true) :
    ¬ AcceptsSessionOf lib s bot := by
  rintro ⟨row, hrow, hbot, htoken, env, path, hanswer⟩
  rcases h with hrevoked | hfarm
  · rw [run_authUser_session htoken, run_opaqueIdentity] at hanswer
    unfold Db.opaqueAnswer at hanswer
    split at hanswer
    · cases hanswer
    · next publicKey status howner =>
        split_ifs at hanswer with hkey
        cases hanswer
        exact hkey hrevoked
  · rw [hfarm row hrow hbot] at htoken
    cases htoken

/-! ## Events -/

/-- A published event comes to the sockets of subscribers in scope, and to no others. -/
structure PublishEffect (event : HubEvent) (s t : AppState) : Prop where
  aside : BotsAside s t
  queues : ∀ conn, t.botQueues conn = s.botQueues conn ∨
    ∃ bot ∈ s.db.subscribers event.eventType event.channelId, s.botSessions bot = some conn ∧
      s.db.inScope bot event.channelId = true

theorem botQueues_trySend_of_ne {conn other : ℕ} (hne : other ≠ conn) (frame : HubEventFrame) :
    (s.trySend conn frame).botQueues other = s.botQueues other := by
  unfold AppState.trySend
  split_ifs
  · exact if_neg hne
  · rfl

theorem botSessions_trySend (conn : ℕ) (frame : HubEventFrame) :
    (s.trySend conn frame).botSessions = s.botSessions := by
  unfold AppState.trySend
  split_ifs <;> rfl

theorem pushEvents_effect (env : PublishEnv) (event : HubEvent) (seq : Int) :
    PublishEffect event s ((pushEvents readCaps env event seq).run s).2 := by
  have hsame : PublishEffect event s s := ⟨.refl s, fun _ => .inl rfl⟩
  -- While the event is pushed the store is the one that was there at the start.
  let rel (a b : AppState) : Prop := a.db = s.db → b.db = s.db ∧ b.botSessions = a.botSessions ∧
    ∀ conn, b.botQueues conn = a.botQueues conn ∨
      ∃ bot ∈ s.db.subscribers event.eventType event.channelId, s.botSessions bot = some conn ∧
        s.db.inScope bot event.channelId = true
  have hrefl : ∀ a, rel a a := fun a ha => ⟨ha, rfl, fun _ => .inl rfl⟩
  have htrans : ∀ a b c, rel a b → rel b c → rel a c := by
    intro a b c hab hbc ha
    obtain ⟨hb, hsessions, hqueues⟩ := hab ha
    obtain ⟨hc, hsessions', hqueues'⟩ := hbc hb
    refine ⟨hc, hsessions'.trans hsessions, fun conn => ?_⟩
    rcases hqueues' conn with hqueue' | hreached
    · rcases hqueues conn with hqueue | hreached
      · exact .inl (hqueue'.trans hqueue)
      · exact .inr hreached
    · exact .inr hreached
  unfold pushEvents
  rw [Prog.run_bind_of_ok (run_fetch _ s), Prog.run_bind_of_ok (run_fetch _ s), Prog.when]
  split_ifs
  · rw [Prog.run_bind_of_ok (Prog.run_query _ s)]
    have hpush : (Prog.each (s.db.subscribers event.eventType event.channelId)
        (pushEvent readCaps env event seq s.db.hubUrl s.botSessions)).Changes rel := by
      apply Prog.changes_each_mem hrefl htrans
      intro bot hbot a ha
      unfold pushEvent
      cases hsession : s.botSessions bot with
      | none => exact hrefl a ha
      | some conn =>
          rw [Prog.run_bind_of_ok (run_fetch _ a), Prog.when, ha]
          split_ifs with hscope
          · rw [Prog.run_bind_of_ok (run_fetch _ a), Prog.run_exec]
            refine ⟨(trySend_db a conn _).trans ha, botSessions_trySend conn _, fun other => ?_⟩
            by_cases hother : other = conn
            · rw [hother]
              exact .inr ⟨bot, hbot, hsession, hscope⟩
            · exact .inl (botQueues_trySend_of_ne hother _)
          · exact hrefl a ha
    obtain ⟨hdb, hsessions, hqueues⟩ := hpush s rfl
    refine ⟨⟨⟨fun bot h => ?_, congrArg Db.subkeyRevocations hdb, hsessions⟩,
      congrArg Db.sessions hdb⟩, hqueues⟩
    rwa [hdb]
  · exact hsame

/-- What comes before the pushes: the number is counted up, and the row is written. -/
structure SameAudience (s t : AppState) : Prop where
  aside : BotsAside s t
  botSubscriptions : t.db.botSubscriptions = s.db.botSubscriptions
  botChannelScope : t.db.botChannelScope = s.db.botChannelScope
  botQueues : t.botQueues = s.botQueues

theorem PublishEffect.of_sameAudience {event : HubEvent} {u : AppState}
    (haudience : SameAudience s t) (h : PublishEffect event t u) : PublishEffect event s u := by
  refine ⟨haudience.aside.trans _ _ _ h.aside, fun conn => ?_⟩
  rcases h.queues conn with hsame | ⟨bot, hbot, hsession, hscope⟩
  · exact .inl (hsame.trans (congrFun haudience.botQueues conn))
  · refine .inr ⟨bot, ?_, ?_, ?_⟩
    · rwa [Db.subscribers, haudience.botSubscriptions] at hbot
    · rwa [haudience.aside.botSessions] at hsession
    · cases hchannel : event.channelId with
      | none => rfl
      | some channelId => rwa [hchannel, Db.inScope, haudience.botChannelScope] at hscope

theorem sameAudience_bumpSeq (s : AppState) : SameAudience s (s.withDb (bumpSeq s.db)) :=
  ⟨botsAside_withDb rfl rfl rfl, rfl, rfl, rfl⟩

theorem run_storeEvent (row : HubAuditLogRow) :
    ∃ stored t, (storeEvent row).run s = (.ok stored, t) ∧ SameAudience s t := by
  cases hfree : s.db.hubAuditLog.insert? row with
  | none =>
      have hrun : (storeEvent row).run s = (.ok false, s) := by
        simp [storeEvent, execute, executeOr, Prog.attempt, Prog.recover, Prog.run, insertAudit,
          hfree, bind, Prog.bind, pure]
      exact ⟨false, s, hrun, .refl s, rfl, rfl, rfl⟩
  | some hubAuditLog =>
      have hrun : (storeEvent row).run s = (.ok true, s.withDb { s.db with hubAuditLog }) := by
        simp [storeEvent, execute, executeOr, Prog.attempt, Prog.recover, Prog.run, insertAudit,
          hfree, bind, Prog.bind, pure]
      exact ⟨true, _, hrun, botsAside_withDb rfl rfl rfl, rfl, rfl, rfl⟩

theorem publishHubEvent_effect (readCaps : String → Option (List String)) (env : PublishEnv)
    (event : HubEvent) :
    PublishEffect event s ((publishHubEvent readCaps env event).run s).2 := by
  have hnext : nextSeq.run s = (.ok (bumpSeq s.db).auditSeq, s.withDb (bumpSeq s.db)) := by
    unfold nextSeq
    rw [Prog.run_bind_of_ok (run_write _ s), run_fetch]
    rfl
  apply PublishEffect.of_sameAudience (sameAudience_bumpSeq s)
  rw [publishHubEvent, Prog.run_bind_of_ok hnext]
  cases (bumpSeq s.db).auditSeq with
  | none => exact ⟨.refl _, fun _ => .inl rfl⟩
  | some seq =>
      obtain ⟨stored, t, hstore, haudience⟩ :=
        run_storeEvent (s := s.withDb (bumpSeq s.db)) (event.row env seq)
      apply PublishEffect.of_sameAudience haudience
      dsimp only
      rw [Prog.run_bind_of_ok hstore, Prog.when]
      split_ifs
      · exact pushEvents_effect env event seq
      · exact ⟨.refl t, fun _ => .inl rfl⟩

/-! ## Runs -/

/-- What a careful run keeps up for a bot of some standing. -/
structure Watched (s : AppState) (bot : String) (standing : BotStanding) : Prop where
  flagged : standing ≠ .present → bot ∈ s.db.removedBots
  away : standing ≠ .back
  sessions : standing.isShutOut = true → s.db.isRevoked bot = true ∨
    ∀ row ∈ s.db.sessions.rows, row.publicKey = bot → isFarmToken row.token = true

/-- What holds between the calls of a careful run. -/
structure BotServer.Sound (h : BotServer) : Prop where
  watched : ∀ bot, Watched h.app bot (h.standing bot)
  sockets : ∀ bot conn, h.app.botSessions bot = some conn → h.sockets conn = some ⟨bot, true⟩

/-- A request leaves no session behind but of those who are not shut out. -/
theorem BotServer.Sound.withApp (h : hub.Sound) (hkept : BotsKept hub.app t)
    (hsessions : ∀ row ∈ t.db.sessions.rows, row ∈ hub.app.db.sessions.rows ∨
      (hub.standing row.publicKey).isShutOut = false) :
      { hub with app := t : BotServer }.Sound where
  watched bot := by
    refine ⟨fun hpresent => hkept.removedBots bot ((h.watched bot).flagged hpresent),
      (h.watched bot).away, fun hshut => ?_⟩
    rw [isRevoked_congr hkept.subkeyRevocations]
    refine ((h.watched bot).sessions hshut).imp_right fun hfarm row hrow hkey => ?_
    rcases hsessions row hrow with hold | hin
    · exact hfarm row hold hkey
    · rw [hkey] at hin
      exact absurd (hin.symm.trans hshut) Bool.false_ne_true
  sockets bot conn hconn := h.sockets bot conn (by rwa [← hkept.botSessions])

theorem BotServer.Sound.aside (h : hub.Sound) (haside : BotsAside hub.app t) :
    { hub with app := t : BotServer }.Sound :=
  h.withApp haside.toBotsKept fun _ hrow => .inl (haside.sessions ▸ hrow)

/-- A bot gets another standing. -/
theorem BotServer.Sound.move (h : hub.Sound) {pubkey : String} {standing : BotStanding}
    (hwatched : Watched hub.app pubkey standing) :
    { hub with standing := Function.update hub.standing pubkey standing : BotServer }.Sound where
  watched := (Function.forall_update_iff hub.standing fun bot standing =>
    Watched hub.app bot standing).mpr ⟨hwatched, fun bot _ => h.watched bot⟩
  sockets := h.sockets

theorem sound_started (app : AppState) : (BotServer.started app).Sound where
  watched _ := ⟨fun h => absurd rfl h, BotStanding.noConfusion, fun h =>
    absurd h Bool.false_ne_true⟩
  sockets _ _ h := absurd h.symm (Option.some_ne_none _)

/-- An invite lets nobody in. -/
theorem Watched.onInvite {bot : String} {standing : BotStanding} (h : Watched s bot standing) :
    Watched s bot standing.onInvite := by
  cases standing with
  | removed => exact ⟨fun _ => h.flagged BotStanding.noConfusion,
      BotStanding.noConfusion, h.sessions⟩
  | present => exact h
  | reinvited => exact h
  | back => exact h

/-- An invite can only be accepted whose token is signed in time. -/
theorem checkBotInvite_of_isOk {now : Int} {req : AcceptInviteRequest}
    (h : ((extAcceptInvite lib now req).run s).1.isOk = true) :
    checkBotInvite lib.ed25519 now req (s.db.botInvite req.pubkey) = .ok () := by
  unfold extAcceptInvite at h
  rw [Prog.run_bind_of_ok (run_fetch _ s), Prog.run_bind', Prog.run_ofExcept] at h
  cases hcheck : checkBotInvite lib.ed25519 now req (s.db.botInvite req.pubkey) with
  | error e =>
      rw [hcheck] at h
      cases h
  | ok _ => rfl

theorem BotServer.Sound.open (h : hub.Sound) {conn : ℕ} (hfree : hub.sockets conn = none)
    (publicKey : String) : (hub.open conn publicKey).Sound where
  watched bot := ⟨(h.watched bot).flagged, (h.watched bot).away, (h.watched bot).sessions⟩
  sockets bot other hother := by
    show Function.update hub.sockets conn _ other = _
    change (if _ then Function.update hub.app.botSessions publicKey (some conn)
      else hub.app.botSessions) bot = some other at hother
    have hold : hub.app.botSessions bot = some other →
        Function.update hub.sockets conn
          (some ⟨publicKey, (hub.app.db.botStatus publicKey).isSome⟩) other = some ⟨bot, true⟩ := by
      intro hsession
      have hsocket := h.sockets bot other hsession
      rw [Function.update_of_ne, hsocket]
      rintro rfl
      rw [hfree] at hsocket
      cases hsocket
    split_ifs at hother with hbot
    · by_cases hsame : bot = publicKey
      · subst hsame
        rw [Function.update_self, Option.some.injEq] at hother
        rw [← hother, Function.update_self, hbot]
      · rw [Function.update_of_ne hsame] at hother
        exact hold hother
    · exact hold hother

theorem BotServer.Sound.close (h : hub.Sound) {conn : ℕ} {owner : BotConn}
    (howner : hub.sockets conn = some owner) : (hub.close conn owner).Sound where
  watched bot := ⟨(h.watched bot).flagged, (h.watched bot).away, (h.watched bot).sessions⟩
  sockets bot other hother := by
    show Function.update hub.sockets conn none other = _
    change (if owner.isBot then Function.update hub.app.botSessions owner.publicKey none
      else hub.app.botSessions) bot = some other at hother
    have hsession : hub.app.botSessions bot = some other := by
      split_ifs at hother
      · by_cases hsame : bot = owner.publicKey
        · rw [hsame, Function.update_self] at hother
          cases hother
        · rwa [Function.update_of_ne hsame] at hother
      · exact hother
    have hsocket := h.sockets bot other hsession
    rw [Function.update_of_ne, hsocket]
    rintro rfl
    -- The socket is this bot's, so its queue has been forgotten.
    obtain rfl : owner = ⟨bot, true⟩ := Option.some.inj (howner.symm.trans hsocket)
    rw [if_pos rfl, Function.update_self] at hother
    cases hother

theorem BotServer.Sound.step (h : hub.Sound) {call : BotCall} (hcareful : call.Careful lib hub) :
    (call.exec lib readCaps hub).Sound := by
  cases call with
  | invite env user pubkey =>
      have happ := h.aside (changes_extInviteBot env user pubkey hub.app)
      simp only [BotCall.exec, BotServer.after]
      split_ifs
      · exact happ.move (happ.watched pubkey).onInvite
      · exact happ
  | accept now req =>
      have happ := h.aside (changes_extAcceptInvite lib now req hub.app)
      simp only [BotCall.exec, BotServer.after]
      split_ifs with hok
      · have hsame : (hub.standing req.pubkey).onAccept = hub.standing req.pubkey := by
          cases hstanding : hub.standing req.pubkey with
          | present => rfl
          | removed => rfl
          | reinvited => exact absurd (checkBotInvite_of_isOk hok) (hcareful hstanding)
          | back => rfl
        rw [hsame]
        exact happ.move (happ.watched req.pubkey)
      · exact happ
  | remove user pubkey =>
      simp only [BotCall.exec, BotServer.after, run_extRemoveBot]
      split_ifs with hadmin hok hbot hok
      · have happ := h.aside (botsAside_markBotRemoved (s := hub.app) pubkey)
        exact happ.move ⟨fun _ => mem_removedBots_markBotRemoved hbot, BotStanding.noConfusion,
          fun _ => hcareful hadmin hbot⟩
      · have happ := h.aside (botsAside_markBotRemoved (s := hub.app) pubkey)
        exact happ.move (happ.watched pubkey)
      · exact absurd rfl hok
      · cases hok
      · cases hok
      · exact h
  | login call =>
      apply h.withApp (call.botsKept hub.app)
      intro row hrow
      by_cases hold : row ∈ hub.app.db.sessions.rows
      · exact .inl hold
      · obtain ⟨env, req, rfl, hopens, hkey⟩ := opensSession_of_new hrow hold
        right
        by_contra hshut
        rw [hkey] at hshut
        exact hcareful (.inr (by simpa using hshut)) hopens
  | connect conn token =>
      simp only [BotCall.exec]
      split
      · next publicKey hfree _ => exact h.open hfree publicKey
      · exact h
  | disconnect conn =>
      simp only [BotCall.exec]
      cases howner : hub.sockets conn with
      | none => exact h
      | some owner => exact h.close howner
  | receive conn =>
      refine ⟨fun bot => ?_, h.sockets⟩
      exact ⟨(h.watched bot).flagged, (h.watched bot).away, (h.watched bot).sessions⟩
  | publish env event => exact h.aside (publishHubEvent_effect readCaps env event).aside

theorem BotServer.Sound.callRight (h : hub.Sound) {call : BotCall}
    (hcareful : call.Careful lib hub) : call.Right lib readCaps hub where
  login env req hcall hshut := by
    subst hcall
    by_contra hok
    exact hcareful hshut (opensSession_of_isOk (by simpa using hok))
  push env event hcall conn owner howner hshut := by
    subst hcall
    rcases (publishHubEvent_effect readCaps env event).queues conn with
      hsame | ⟨bot, hbot, hsession, hscope⟩
    · exact hsame
    · obtain rfl : owner = ⟨bot, true⟩ :=
        Option.some.inj (howner.symm.trans (h.sockets bot conn hsession))
      rcases hcareful bot hbot hshut with hnone | hout
      · rw [hnone] at hsession
        cases hsession
      · rw [hout] at hscope
        cases hscope

/-- Only a bot that has not been removed is ever asked. -/
theorem not_mem_removedBots_of_matchedCommand {db : Db} {command channelId : String}
    {found : MatchedCommand} (h : found ∈ db.matchedCommand command channelId) :
    found.botPubkey ∉ db.removedBots := by
  obtain ⟨row, -, hrow⟩ := List.exists_of_findSome?_eq_some h
  simp only [Option.bind_eq_bind, Option.bind_eq_some_iff, Option.guard_eq_some'] at hrow
  obtain ⟨profile, -, user, -, -, ⟨-, -, hremoved, -⟩, hfound⟩ := hrow
  cases hfound
  exact hremoved

theorem BotServer.Sound.right (h : hub.Sound) : hub.Right lib where
  sessions bot hshut := not_acceptsSessionOf ((h.watched bot).sessions hshut)
  commands bot hshut command channelId found hfound hbot := by
    apply not_mem_removedBots_of_matchedCommand hfound
    rw [hbot]
    apply (h.watched bot).flagged
    intro hpresent
    rw [hpresent] at hshut
    cases hshut
  listed bot hback := absurd hback (h.watched bot).away
  dispatched bot hback := absurd hback (h.watched bot).away

/-- **The life of a bot.** A run whose calls are careful is right from its start to its
end. -/
theorem botsRight_of_careful (calls : List BotCall) (app : AppState)
    (hcareful : Along (BotCall.exec lib readCaps) (BotCall.Careful lib) calls (.started app)) :
    BotsRight lib readCaps calls app := by
  have hsound : ∀ first rest, calls = first ++ rest →
      (runAll (BotCall.exec lib readCaps) first (.started app)).Sound := by
    rintro first rest rfl
    exact hcareful.append.1.invariant BotServer.Sound (fun call hub hcall h => h.step hcall)
      (sound_started app)
  constructor
  · rw [along_iff_split]
    rintro first call rest rfl
    exact (hsound first _ rfl).callRight (along_iff_split.mp hcareful first call rest rfl)
  · rintro first ⟨rest, rfl⟩
    exact (hsound first rest rfl).right

/-! ## From the removal on -/

/-- Nobody who is shut out has a session, or is reached through a socket. -/
def BotServer.Unseated (h : BotServer) : Prop :=
  ∀ bot, (h.standing bot).isShutOut = true →
    (∀ row ∈ h.app.db.sessions.rows, row.publicKey ≠ bot) ∧ h.app.botSessions bot = none

theorem BotServer.Unseated.after {A : Type} (h : hub.Unseated)
    {answer : Except ApiError A × AppState} (haside : BotsAside hub.app answer.2) {pubkey : String}
    {standing : BotStanding}
    (hshut : answer.1.isOk = true → standing.isShutOut = true →
      (∀ row ∈ hub.app.db.sessions.rows, row.publicKey ≠ pubkey) ∧
        hub.app.botSessions pubkey = none) :
    (hub.after answer pubkey standing).Unseated := by
  intro bot hbot
  rw [show (hub.after answer pubkey standing).app = answer.2 from rfl, haside.sessions,
    haside.botSessions]
  simp only [BotServer.after] at hbot
  split_ifs at hbot with hok
  · by_cases hsame : bot = pubkey
    · subst hsame
      rw [Function.update_self] at hbot
      exact hshut hok hbot
    · rw [Function.update_of_ne hsame] at hbot
      exact h bot hbot
  · exact h bot hbot

/-- A socket is only opened with a session. -/
theorem BotServer.Unseated.connect (h : hub.Unseated) (conn : ℕ) (token : String) :
    ((BotCall.connect conn token).exec lib readCaps hub).Unseated := by
  simp only [BotCall.exec, run_wsHandler]
  split
  · next publicKey hfree hanswer =>
      intro bot hbot
      obtain ⟨hnone, hsocket⟩ := h bot hbot
      refine ⟨hnone, ?_⟩
      unfold BotServer.open
      dsimp only
      split_ifs
      · rw [Function.update_of_ne, hsocket]
        rintro rfl
        unfold Db.wsAnswer at hanswer
        split at hanswer
        · cases hanswer
        · next session hsession =>
            split_ifs at hanswer
            cases hanswer
            exact hnone session (Table.find?_eq_some_iff.mp hsession).1 rfl
      · exact hsocket
  · exact h

theorem BotServer.Unseated.step (h : hub.Unseated) (hsound : hub.Sound) {call : BotCall}
    (hcall : call.CutsOff lib hub) : (call.exec lib readCaps hub).Unseated := by
  cases call with
  | invite env user pubkey =>
      apply h.after (changes_extInviteBot env user pubkey hub.app)
      refine fun _ hshut => h pubkey ?_
      revert hshut
      cases hub.standing pubkey <;> exact id
  | accept now req =>
      apply h.after (changes_extAcceptInvite lib now req hub.app)
      refine fun _ hshut => h req.pubkey ?_
      revert hshut
      cases hub.standing req.pubkey <;> simp [BotStanding.onAccept, BotStanding.isShutOut]
  | remove user pubkey =>
      simp only [BotCall.exec, run_extRemoveBot]
      split_ifs with hadmin hbot hbot
      · apply h.after (botsAside_markBotRemoved pubkey)
        obtain ⟨hnone, hclosed⟩ := hcall hadmin hbot
        refine fun _ _ => ⟨hnone, Option.eq_none_iff_forall_ne_some.mpr fun conn hconn => ?_⟩
        exact hclosed conn _ (hsound.sockets pubkey conn hconn) rfl
      · exact h.after (botsAside_markBotRemoved pubkey) fun _ hshut => h pubkey hshut
      · exact h.after (.refl _) fun hok => absurd hok Bool.false_ne_true
      · exact h.after (.refl _) fun hok => absurd hok Bool.false_ne_true
  | login call =>
      intro bot hbot
      obtain ⟨hnone, hsocket⟩ := h bot hbot
      refine ⟨fun row hrow hkey => ?_, (congrFun (call.botsKept hub.app).botSessions bot).trans
        hsocket⟩
      by_cases hold : row ∈ hub.app.db.sessions.rows
      · exact hnone row hold hkey
      · obtain ⟨env, req, rfl, hopens, hcanonical⟩ := opensSession_of_new hrow hold
        rw [← hkey, hcanonical] at hbot
        exact hcall (.inr hbot) hopens
  | connect conn token => exact h.connect conn token
  | disconnect conn =>
      simp only [BotCall.exec]
      cases hub.sockets conn with
      | none => exact h
      | some owner =>
          intro bot hbot
          refine ⟨(h bot hbot).1, ?_⟩
          simp only [Option.elim_some, BotServer.close]
          split_ifs
          · rw [Function.update_apply, (h bot hbot).2, ite_self]
          · exact (h bot hbot).2
  | receive conn => exact h
  | publish env event =>
      have haside := (publishHubEvent_effect readCaps env event (s := hub.app)).aside
      exact fun bot hbot => ⟨fun row hrow => (h bot hbot).1 row (haside.sessions ▸ hrow),
        (congrFun haside.botSessions bot).trans (h bot hbot).2⟩

theorem BotServer.Unseated.careful (h : hub.Unseated) {call : BotCall}
    (hcall : call.CutsOff lib hub) : call.Careful lib hub := by
  cases call with
  | remove user pubkey =>
      intro hadmin hbot
      exact .inr fun row hrow hkey => absurd hkey ((hcall hadmin hbot).1 row hrow)
  | publish env event => exact fun bot _ hshut => .inl (h bot hshut).2
  | invite | accept | login | connect | disconnect | receive => exact hcall

/-- A run that cuts off whom it removes is careful. -/
theorem careful_of_cutsOff (calls : List BotCall) (app : AppState)
    (hcalls : Along (BotCall.exec lib readCaps) (BotCall.CutsOff lib) calls (.started app)) :
    Along (BotCall.exec lib readCaps) (BotCall.Careful lib) calls (.started app) := by
  have hboth : ∀ first rest, calls = first ++ rest →
      (runAll (BotCall.exec lib readCaps) first (.started app)).Sound ∧
        (runAll (BotCall.exec lib readCaps) first (.started app)).Unseated := by
    rintro first rest rfl
    exact hcalls.append.1.invariant (fun hub => hub.Sound ∧ hub.Unseated)
      (fun call hub hcall h => ⟨h.1.step (h.2.careful hcall), h.2.step h.1 hcall⟩)
      ⟨sound_started app, fun _ hshut => absurd hshut Bool.false_ne_true⟩
  rw [along_iff_split]
  rintro first call rest rfl
  exact (hboth first _ rfl).2.careful (along_iff_split.mp hcalls first call rest rfl)

/-- A hub with its owner. -/
def ownedHub : AppState :=
  { db := { Db.migrated with
      users := .single ⟨"owner", 0, 0, .approved, none, false, 0, none, .none, none⟩
      userRoles := .single ⟨"owner", "builtin-owner", 0⟩ } }

/-- The owner invites the laptop as a bot and removes it, and somebody logs in. -/
def removedBot (answer : RecordedSignature) : List BotCall :=
  [.invite ⟨10, .replicate 32 7⟩ "owner" laptopKey, .remove "owner" laptopKey] ++
    (loginWith answer none 20 2).map .login

/-- The removed bot logs in. -/
theorem not_botsRight_login :
    ¬ BotsRight deviceLib (fun _ => none) (removedBot laptopAnswer) ownedHub := by
  intro h
  obtain ⟨hshut, hok⟩ :
      ((runAll (BotCall.exec deviceLib fun _ => none) ((removedBot laptopAnswer).take 3)
        (.started ownedHub)).standing laptopKey).isShutOut = true ∧
      ((verify deviceLib (.fixed 20 2) (.ofRecorded laptopAnswer none)).run
        (runAll (BotCall.exec deviceLib fun _ => none) ((removedBot laptopAnswer).take 3)
          (.started ownedHub)).app).1.isOk = true := by
    decide +kernel
  have hlogin := (h.steps.2.2.2.1).login _ _ rfl (.inl hshut)
  exact Bool.false_ne_true (hlogin.symm.trans hok)

/-- Somebody else logs in and connects, and an event is published. -/
theorem botsRight_phone :
    (((runAll (BotCall.exec deviceLib fun _ => none) (removedBot phoneAnswer)
      (.started ownedHub)).standing laptopKey).isShutOut = true) ∧
    BotsRight deviceLib (fun _ => none) (removedBot phoneAnswer ++
      [.connect 0 (hexEncode (.replicate 32 2)),
        .publish ⟨"entry", 30⟩ ⟨"member.joined", none, none, none, .object []⟩]) ownedHub := by
  obtain ⟨hshut, hphone⟩ :
      ((runAll (BotCall.exec deviceLib fun _ => none) (removedBot phoneAnswer)
        (.started ownedHub)).standing laptopKey).isShutOut = true ∧
      ¬ (((runAll (BotCall.exec deviceLib fun _ => none) ((removedBot phoneAnswer).take 3)
          (.started ownedHub)).standing phoneKey).isShutOut = true ∨
        ((runAll (BotCall.exec deviceLib fun _ => none) ((removedBot phoneAnswer).take 3)
          (.started ownedHub)).standing (canonicalKey (.ofRecorded phoneAnswer)
            (runAll (BotCall.exec deviceLib fun _ => none) ((removedBot phoneAnswer).take 3)
              (.started ownedHub)).app.db)).isShutOut = true) := by
    decide +kernel
  refine ⟨hshut, botsRight_of_careful _ _ (careful_of_cutsOff _ _ ?_)⟩
  refine ⟨trivial, fun _ _ => ⟨by decide +kernel, fun conn owner hopen => ?_⟩, trivial,
    fun hshut => absurd hshut hphone, trivial, trivial, trivial⟩
  cases hopen

end Voxply.Hub
