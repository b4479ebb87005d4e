/-
# Bots that answer

A message that starts with a slash is offered to the bots: if one of them has
registered the command, its webhook is asked, and what it replies is stored and
broadcast like a message.  A bot can ask for its reply to be shown to the user
alone who has invoked it; the row then names that user.  The same holds for what
a bot replies when somebody uses a component of one of its messages, and for the
hub's own notice that a command has failed.

What a webhook answers is up to the bot, so the bots are parameters.
-/

import Voxply.Hub.AuditLog
import Voxply.Hub.AuthUser
import Voxply.Hub.Dms
import Voxply.Hub.Roles

namespace Voxply.Hub

open Voxply.Math

/-! ## Messages in the store -/

/-- `INSERT INTO messages`. -/
def insertMessage (row : MessageRow) (db : Db) : Except SqlError Db :=
  match db.messages.insert? row with
  | none => .error (.primaryKey "messages.id")
  | some messages =>
      if db.channels.has row.channelId ∧ db.users.has row.sender then
        .ok { db with messages := messages }
      else .error .foreignKey

/-- `UPDATE messages SET content = ?, edited_at = ? WHERE id = ?`. -/
def updateMessage (id content : String) (now : Int) (db : Db) : Db :=
  { db with
    messages := db.messages.update (·.id = id)
      (fun row => { row with content := content, editedAt := some now }) fun _ => rfl }

/-- Look up a row that a path names, and check that it belongs to what the path says
it belongs to. -/
def requireRow {Row : Type} (find : Db → Option Row) (belongs : Row → Bool)
    (missing elsewhere : ApiError) : Handler Row := do
  let found ← fetch find
  match found with
  | none => .fail missing
  | some row => if belongs row then pure row else .fail elsewhere

theorem run_requireRow {Row : Type} (find : Db → Option Row) (belongs : Row → Bool)
    (missing elsewhere : ApiError) (s : AppState) :
    (requireRow find belongs missing elsewhere).run s =
      ((find s.db).elim (.error missing) fun row =>
        if belongs row then .ok row else .error elsewhere, s) := by
  rw [requireRow, Prog.run_bind_of_ok (run_fetch _ s)]
  cases find s.db with
  | none => rfl
  | some row =>
      cases hbelongs : belongs row
      · simp [hbelongs]
      · simp [hbelongs]

/-- An event is sent to all connections. -/
def AppState.sendChat (s : AppState) (event : ChatEvent) (message : WsServerMessage) : AppState :=
  { s with chatTx := s.chatTx ++ [(event, message)] }

/-- Broadcast a new message. -/
def broadcastNew (channelId : String) (message : MessageResponse) : Handler Unit :=
  .exec (·.sendChat (.new channelId message) (.chatMessage channelId message))

/-- Broadcast an edited message. -/
def broadcastEdited (channelId : String) (message : MessageResponse) : Handler Unit :=
  .exec (·.sendChat (.edited channelId message) (.messageEdited channelId message))

/-! ## What bots are asked and answer -/

structure AuthorInfo where
  pubkey : String
  displayName : Option String
  deriving DecidableEq

structure SlashInvocation where
  hubUrl : String
  channelId : String
  messageIdHint : String
  author : AuthorInfo
  command : String
  argsRaw : String
  argsTokens : List String
  deriving DecidableEq

structure ComponentInteraction where
  hubUrl : String
  channelId : String
  messageId : String
  customId : String
  values : List String
  user : AuthorInfo
  deriving DecidableEq

structure BotResponse where
  reply : Option String := none
  ephemeral : Option Bool := none
  deriving DecidableEq

structure ComponentResponse where
  /-- The new body, if the update has one. -/
  update : Option (Option String) := none
  ephemeralReply : Option String := none
  defer : Option Bool := none
  deriving DecidableEq

/-- What is outside the hub: the webhook at some URL, which may not answer or not
answer well, and the lower case of a text. -/
structure BotWorld where
  slash : String → SlashInvocation → Option BotResponse
  component : String → ComponentInteraction → Option ComponentResponse
  toLowercase : String → String

/-! ## Slash commands -/

/-- The command and its arguments. -/
structure SlashText where
  command : String
  argsRaw : String
  deriving DecidableEq

/-- `splitn(2, ' ')` of what follows the slash. -/
def parseSlash (toLowercase : String → String) (content : String) : SlashText :=
  let rest := content.toList.drop 1
  ⟨toLowercase (String.ofList (rest.takeWhile (· ≠ ' '))),
    String.ofList ((rest.dropWhile (· ≠ ' ')).drop 1)⟩

/-- `str::split_whitespace`. -/
def splitWhitespace (text : String) : List String :=
  ((text.toList.splitOnP isWhitespace).filter (· ≠ [])).map String.ofList

structure MatchedCommand where
  botPubkey : String
  botName : String
  webhookUrl : Option String
  privileged : Bool
  deriving DecidableEq

/-- The bot that handles a command in a channel. -/
def Db.matchedCommand (db : Db) (command channelId : String) : Option MatchedCommand :=
  db.botCommands.rows.findSome? fun row => do
    let profile ← db.botProfiles.find? row.pubkey
    let user ← db.users.find? row.pubkey
    guard (row.name = command ∧ user.isBot ∧ row.pubkey ∉ db.removedBots ∧
      db.inScope row.pubkey (some channelId) = true)
    pure ⟨row.pubkey, profile.name, profile.webhookUrl, row.privileged⟩

def sendMessages : String := "send_messages"

def manageMessages : String := "manage_messages"

/-- What `dispatch_slash` draws and reads off the clock. -/
structure SlashEnv where
  messageIdHint : String
  replyId : String
  repliedAt : Int
  deriving DecidableEq

/-- The message that a bot replies with. -/
def MatchedCommand.message (command : MatchedCommand) (env : SlashEnv)
    (channelId invoker body : String) (ephemeral : Bool) (displayName : Option String) :
    MessageResponse where
  id := env.replyId
  channelId := channelId
  sender := command.botPubkey
  senderName := displayName.or (some command.botName)
  content := body
  createdAt := env.repliedAt
  visibleToPubkey := if ephemeral then some invoker else none

/-- Store and broadcast the reply. A reply that cannot be stored is broadcast all
the same. -/
def MatchedCommand.reply (command : MatchedCommand) (env : SlashEnv)
    (channelId invoker body : String) (ephemeral : Bool) : Handler Unit := do
  writeIgnoring (insertMessage
    ⟨env.replyId, channelId, command.botPubkey, body, [], none, env.repliedAt, none,
      if ephemeral then some invoker else none⟩)
  let displayName ← fetch (·.displayNameOf command.botPubkey)
  broadcastNew channelId (command.message env channelId invoker body ephemeral displayName)

/-- Ask the webhook of the bot. A failure is a text. -/
def MatchedCommand.dispatch (world : BotWorld) (command : MatchedCommand) (env : SlashEnv)
    (channelId invoker webhookUrl : String) (text : SlashText) : Handler (Option String) := do
  let displayName ← fetch (·.displayNameOf invoker)
  let hubUrl ← fetch Db.hubUrl
  match world.slash webhookUrl ⟨hubUrl, channelId, env.messageIdHint, ⟨invoker, displayName⟩,
      text.command, text.argsRaw, splitWhitespace text.argsRaw⟩ with
  | none => pure (some ("Bot @" ++ command.botName ++ " failed to respond."))
  | some response => do
      .whenSome response.reply fun body =>
        command.reply env channelId invoker body (response.ephemeral.getD false)
      pure none

/-- `dispatch_slash`: the text of an error, or nothing if no bot was asked or all
went well. -/
def dispatchSlash (world : BotWorld) (env : SlashEnv) (channelId invoker content : String) :
    Handler (Option String) :=
  if content.toList.head? ≠ some '/' then pure none
  else
    let text := parseSlash world.toLowercase content
    if text.command = "" then pure none
    else do
      let matched ← fetch (·.matchedCommand text.command channelId)
      match matched with
      | none => pure none
      | some command => do
          let allowed ← if command.privileged then do
              let perms ← userPermissions invoker
              pure (perms.has manageMessages)
            else pure true
          if allowed = false then
            pure (some "You don't have permission to use this command.")
          else
            match command.webhookUrl with
            | none => pure none
            | some webhookUrl =>
                if webhookUrl = "" then pure none
                else command.dispatch world env channelId invoker webhookUrl text

/-- The notice that a command has failed. -/
def errorNotice (id channelId invoker errorText : String) (now : Int) : MessageResponse where
  id := id
  channelId := channelId
  sender := invoker
  senderName := none
  content := errorText
  createdAt := now
  visibleToPubkey := some invoker

/-- `insert_ephemeral_error`. -/
def insertEphemeralError (id channelId invoker errorText : String) (now : Int) : Handler Unit := do
  execute (insertMessage
    ⟨id, channelId, invoker, errorText, [], none, now, none, some invoker⟩)
  broadcastNew channelId (errorNotice id channelId invoker errorText now)

/-! ## Components -/

structure ComponentEnv where
  updatedAt : Int
  replyId : String
  repliedAt : Int
  deriving DecidableEq

/-- The message as it is broadcast after an update: `load_updated_message` reads
no reply, no attachments and nothing about who may see it. -/
def Db.updatedMessage (db : Db) (messageId : String) : Option MessageResponse :=
  (db.messages.find? messageId).map fun row =>
    { id := messageId, channelId := row.channelId, sender := row.sender,
      senderName := db.displayNameOf row.sender, content := row.content,
      createdAt := row.createdAt, editedAt := row.editedAt }

/-- The `update` of a response. -/
def applyUpdate (env : ComponentEnv) (messageId channelId : String) (body : Option String) :
    Handler Unit := do
  .whenSome body fun body => write (updateMessage messageId body env.updatedAt)
  let updated ← fetch (·.updatedMessage messageId)
  .whenSome updated (broadcastEdited channelId)

/-- The `ephemeral_reply` of a response. -/
def applyEphemeralReply (env : ComponentEnv) (channelId bot user body : String) :
    Handler Unit := do
  writeIgnoring (insertMessage
    ⟨env.replyId, channelId, bot, body, [], none, env.repliedAt, none, some user⟩)
  let displayName ← fetch (·.displayNameOf bot)
  broadcastNew channelId
    { id := env.replyId, channelId := channelId, sender := bot, senderName := displayName,
      content := body, createdAt := env.repliedAt, visibleToPubkey := some user }

/-- `apply_component_response`. -/
def applyComponentResponse (env : ComponentEnv) (response : ComponentResponse)
    (messageId channelId bot user : String) : Handler Unit :=
  .when (response.defer.getD false = false) do
    .whenSome response.update (applyUpdate env messageId channelId)
    .whenSome response.ephemeralReply (applyEphemeralReply env channelId bot user)

/-- `dispatch_component`. -/
def dispatchComponent (world : BotWorld) (env : ComponentEnv) (messageId customId : String)
    (values : List String) (user : String) : Handler Unit := do
  let found ← fetch (·.messages.find? messageId)
  .whenSome found fun row => do
    let isBot ← fetch fun db => (db.users.find? row.sender).any (·.isBot)
    .when (isBot = true) do
      let webhookUrl ← fetch fun db => (db.botProfiles.find? row.sender).bind (·.webhookUrl)
      .whenSome (webhookUrl.filter (· ≠ "")) fun webhookUrl => do
        let inScope ← fetch (·.inScope row.sender (some row.channelId))
        .when (inScope = true) do
          let displayName ← fetch (·.displayNameOf user)
          let hubUrl ← fetch Db.hubUrl
          .whenSome (world.component webhookUrl
              ⟨hubUrl, row.channelId, messageId, customId, values, ⟨user, displayName⟩⟩)
            fun response => applyComponentResponse env response messageId row.channelId
              row.sender user

end Voxply.Hub
