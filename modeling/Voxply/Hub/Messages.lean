/-
# Messages

Messages are sent, edited, deleted, read and reacted to in channels.  Channels can
be shared with the other hubs of an alliance: a channel of this hub is then read
and written through the alliance like any other, and a channel of another member
through that member, in whose name this hub speaks.

Whether a user is muted or banned from the channel is asked by `send_message`
alone.
-/

import Voxply.Hub.BotDispatch
import Voxply.Hub.Federation
import Voxply.Hub.Sockets

namespace Voxply.Hub

open Voxply.Math Voxply.Identity

/-! ## Requests -/

structure SendMessageRequest where
  content : String
  attachments : List Attachment := []
  replyTo : Option String := none
  deriving DecidableEq

structure EditMessageRequest where
  content : String
  deriving DecidableEq

structure ReactionRequest where
  emoji : String
  deriving DecidableEq

structure PaginationParams where
  before : Option String := none
  limit : Option Int := none
  q : Option String := none
  deriving DecidableEq

/-! ## Queries -/

/-- `is_muted`: a mute without an end, or with one in the future. -/
def Db.isMuted (db : Db) (now : Int) (publicKey : String) : Bool :=
  db.mutes.rows.any fun row =>
    row.targetPublicKey = publicKey ∧ row.expiresAt.all (fun expiresAt => now < expiresAt)

/-- `load_reply_context`: who may see the parent is not asked. -/
def Db.replyContext (db : Db) (parentId : String) : Option ReplyContext :=
  (db.messages.find? parentId).map fun row =>
    ⟨parentId, row.sender, db.displayNameOf row.sender,
      String.ofList (row.content.toList.take 140)⟩

/-- When an emoji was first used among the reactions. -/
def firstUse (rows : List MessageReactionRow) (emoji : String) : Int :=
  (((rows.filter (·.emoji = emoji)).map (·.createdAt)).min?).getD 0

/-- The reactions to a message, the emoji that was used first in front. Without a
viewer, `me` is false. -/
def Db.reactionsTo (db : Db) (messageId : String) (viewer : Option String) :
    List ReactionSummary :=
  let rows := db.messageReactions.rows.filter (·.messageId = messageId)
  let emojis := ((rows.map (·.emoji)).dedup.insertionSort (· ≤ ·)).insertionSort
    fun a b => firstUse rows a ≤ firstUse rows b
  emojis.map fun emoji =>
    ⟨emoji, (rows.filter (·.emoji = emoji)).length,
      rows.any fun row => row.emoji = emoji ∧ some row.userKey = viewer⟩

/-- A row with the name of its sender. The queries for messages select no column
that says who may see the row. -/
structure JoinedMessage where
  row : MessageRow
  senderName : Option String
  deriving DecidableEq

def Db.joined (db : Db) (row : MessageRow) : JoinedMessage :=
  ⟨row, db.displayNameOf row.sender⟩

/-- The row as it is answered. -/
def JoinedMessage.response (m : JoinedMessage) (reactions : List ReactionSummary)
    (replyTo : Option ReplyContext) : MessageResponse where
  id := m.row.id
  channelId := m.row.channelId
  sender := m.row.sender
  senderName := m.senderName
  content := m.row.content
  createdAt := m.row.createdAt
  editedAt := m.row.editedAt
  attachments := m.row.attachments
  reactions := reactions
  replyTo := replyTo

/-- `ORDER BY created_at DESC, rowid DESC LIMIT ?`. A negative limit is none. -/
def newestFirst (rows : List MessageRow) (limit : Int) : List MessageRow :=
  let sorted := rows.reverse.insertionSort fun a b => b.createdAt ≤ a.createdAt
  if limit < 0 then sorted else sorted.take limit.toNat

/-- The rows that `get_messages` selects. `fts` is the full-text index: it refuses a
malformed query, and otherwise knows the texts that match. A search ignores
`before`, and nothing is before an unknown message. -/
def Db.messagePage (db : Db) (fts : String → Except String (String → Bool)) (channelId : String)
    (params : PaginationParams) : Except String (List MessageRow) :=
  let limit := min (params.limit.getD 50) 100
  match (params.q.map trim).filter (· ≠ ""), params.before with
  | some q, _ =>
      (fts q).map fun hit =>
        newestFirst (db.messages.rows.filter fun row => row.channelId = channelId ∧ hit row.content)
          limit
  | none, some beforeId =>
      let earlier := if db.messages.has beforeId then
        db.messages.rows.takeWhile (·.id ≠ beforeId) else []
      .ok (newestFirst (earlier.filter (·.channelId = channelId)) limit)
  | none, none => .ok (newestFirst (db.messages.rows.filter (·.channelId = channelId)) limit)

/-! ## Sending -/

/-- What `send_message` draws and reads off the clock. -/
structure SendMessageEnv where
  id : String
  mutedAt : Int
  now : Int
  slash : SlashEnv
  errorId : String
  failedAt : Int
  deriving DecidableEq

/-- The parent of a reply has to be in the channel. -/
def checkParent (channelId : String) (replyTo : Option String) : Handler Unit :=
  .whenSome replyTo fun parentId => do
    let parent ← fetch (·.messages.find? parentId)
    match parent with
    | none => .fail ⟨.notFound, "Parent message not found"⟩
    | some row =>
        .ensure (row.channelId = channelId)
          ⟨.badRequest, "Parent message is in a different channel"⟩

/-- The preview of the parent, if there is one. -/
def fetchReply : Option String → Handler (Option ReplyContext)
  | none => pure none
  | some parentId => fetch (·.replyContext parentId)

@[simp]
theorem run_fetchReply (replyTo : Option String) (s : AppState) :
    (fetchReply replyTo).run s = (.ok (replyTo.bind s.db.replyContext), s) := by
  cases replyTo <;> rfl

/-- The message is stored and broadcast. -/
def storeMessage (env : SendMessageEnv) (user channelId : String) (req : SendMessageRequest) :
    Handler (StatusCode × MessageResponse) := do
  execute (insertMessage
    ⟨env.id, channelId, user, req.content, req.attachments, req.replyTo, env.now, none, none⟩)
  let replyTo ← fetchReply req.replyTo
  let senderName ← fetch (·.displayNameOf user)
  let message : MessageResponse :=
    { id := env.id, channelId := channelId, sender := user, senderName := senderName,
      content := req.content, createdAt := env.now, attachments := req.attachments,
      replyTo := replyTo }
  broadcastNew channelId message
  pure (.created, message)

/-- `send_message`. A command that has failed is answered by a notice. -/
def sendMessage (world : BotWorld) (env : SendMessageEnv) (user channelId : String)
    (req : SendMessageRequest) : Handler (StatusCode × MessageResponse) := do
  let perms ← userPermissions user
  .ofExcept (perms.require sendMessages)
  let muted ← fetch (·.isMuted env.mutedAt user)
  .ensure (muted = false) ⟨.forbidden, "You are muted"⟩
  let banned ← fetch (·.isChannelBanned channelId user)
  .ensure (banned = false) ⟨.forbidden, "You are banned from this channel"⟩
  let found ← fetch (·.channels.has channelId)
  .ensure (found = true) ⟨.notFound, "Channel not found"⟩
  .ofExcept (checkAttachments req.attachments)
  checkParent channelId req.replyTo
  let failure ← dispatchSlash world env.slash channelId user req.content
  match failure with
  | some errorText => do
      insertEphemeralError env.errorId channelId user errorText env.failedAt
      pure (.ok, errorNotice env.id channelId user errorText env.now)
  | none => storeMessage env user channelId req

/-! ## Editing and deleting -/

/-- The message that a path names has to be in its channel. -/
def fetchMessageIn (channelId messageId : String) : Handler MessageRow :=
  requireRow (·.messages.find? messageId) (·.channelId = channelId)
    ⟨.notFound, "Message not found"⟩ ⟨.notFound, "Message not in this channel"⟩

/-- `load_message`. -/
def loadMessage (messageId : String) : Handler MessageResponse := do
  let found ← fetch fun db => (db.messages.find? messageId).map db.joined
  match found with
  | none => .fail rowNotFound
  | some m => do
      let reactions ← fetch (·.reactionsTo m.row.id none)
      let replyTo ← fetchReply m.row.replyTo
      pure (m.response reactions replyTo)

theorem run_loadMessage {messageId : String} {row : MessageRow} {s : AppState}
    (h : s.db.messages.find? messageId = some row) :
    (loadMessage messageId).run s =
      (.ok ((s.db.joined row).response (s.db.reactionsTo row.id none)
        (row.replyTo.bind s.db.replyContext)), s) := by
  unfold loadMessage
  rw [Prog.run_bind_of_ok (run_fetch _ s), h, Option.map_some]
  dsimp only
  rw [Prog.run_bind_of_ok (run_fetch _ s), Prog.run_bind_of_ok (run_fetchReply _ s)]
  rfl

/-- `edit_message`. -/
def editMessage (now : Int) (user channelId messageId : String) (req : EditMessageRequest) :
    Handler MessageResponse := do
  let row ← fetchMessageIn channelId messageId
  .ensure (row.sender = user) ⟨.forbidden, "You can only edit your own messages"⟩
  write (updateMessage messageId req.content now)
  let updated ← loadMessage messageId
  broadcastEdited channelId updated
  pure updated

/-- `DELETE FROM messages WHERE id = ?`, which takes the reactions along. -/
def deleteMessageRow (messageId : String) (db : Db) : Db :=
  { db with
    messages := db.messages.keep (·.id ≠ messageId)
    messageReactions := db.messageReactions.keep (·.messageId ≠ messageId) }

/-- `delete_message`. -/
def deleteMessage (user channelId messageId : String) : Handler StatusCode := do
  let row ← fetchMessageIn channelId messageId
  .when (row.sender ≠ user) do
    let perms ← userPermissions user
    .ofExcept (perms.require manageMessages)
  write (deleteMessageRow messageId)
  .exec (·.sendChat (.deleted channelId messageId) (.messageDeleted channelId messageId))
  pure .noContent

/-! ## Reading -/

/-- The answer for each row of a page, one after the other. Only `get_messages` adds
the previews of the parents. -/
def responses (viewer : String) (withReply : Bool) :
    List JoinedMessage → Handler (List MessageResponse)
  | [] => pure []
  | m :: rest => do
      let reactions ← fetch (·.reactionsTo m.row.id (some viewer))
      let replyTo ← fetchReply (if withReply then m.row.replyTo else none)
      let messages ← responses viewer withReply rest
      pure (m.response reactions replyTo :: messages)

theorem run_responses (viewer : String) (withReply : Bool) (ms : List JoinedMessage)
    (s : AppState) :
    (responses viewer withReply ms).run s =
      (.ok (ms.map fun m => m.response (s.db.reactionsTo m.row.id (some viewer))
        ((if withReply then m.row.replyTo else none).bind s.db.replyContext)), s) := by
  induction ms with
  | nil => rfl
  | cons m rest ih =>
      unfold responses
      rw [Prog.run_bind_of_ok (run_fetch _ s), Prog.run_bind_of_ok (run_fetchReply _ s),
        Prog.run_bind_of_ok ih]
      rfl

/-- `get_messages`. -/
def getMessages (fts : String → Except String (String → Bool)) (user channelId : String)
    (params : PaginationParams) : Handler (List MessageResponse) := do
  let page ← fetch fun db => (db.messagePage fts channelId params).map fun rows =>
      rows.map db.joined
  match page with
  | .error e => .fail ⟨.internalServerError, "DB error: " ++ e⟩
  | .ok rows => responses user true rows

/-! ## Reactions -/

/-- `INSERT OR IGNORE INTO message_reactions`. -/
def insertReactionOrIgnore (row : MessageReactionRow) (db : Db) : Except SqlError Db :=
  match db.messageReactions.insert? row with
  | none => .ok db
  | some messageReactions =>
      if db.messages.has row.messageId ∧ db.users.has row.userKey then
        .ok { db with messageReactions := messageReactions }
      else .error .foreignKey

/-- `add_reaction`. -/
def addReaction (now : Int) (user channelId messageId : String) (req : ReactionRequest) :
    Handler StatusCode := do
  let perms ← userPermissions user
  .ofExcept (perms.require sendMessages)
  .ensure (trim req.emoji ≠ "" ∧ (trim req.emoji).toList.length ≤ 16)
    ⟨.badRequest, "emoji must be 1..16 chars"⟩
  let _ ← requireRow (·.messages.find? messageId) (·.channelId = channelId)
    ⟨.notFound, "message not found"⟩ ⟨.notFound, "message not in channel"⟩
  execute (insertReactionOrIgnore ⟨messageId, trim req.emoji, user, now⟩)
  let reactions ← fetch (·.reactionsTo messageId none)
  .exec (·.sendChat (.reactionsUpdated channelId messageId reactions)
    (.reactionsUpdated channelId messageId reactions))
  pure .created

/-! ## Alliances -/

/-- What the hub at some URL answers about the channels of an alliance. -/
structure AlliancePeer extends Remote where
  /-- `get_alliance_shared_channels`, with a token and the alliance. -/
  sharedChannels : String → String → Reply (List String)
  /-- `send_message`, with a token, the channel and the text. -/
  postMessage : String → String → String → Reply MessageResponse
  /-- `get_messages`, with a token and the channel. -/
  channelMessages : String → String → Reply (List MessageResponse)

/-- The hubs of the alliance, and what this hub knows of itself. -/
structure AllianceWorld where
  ed25519 : Ed25519
  peer : String → AlliancePeer
  hubName : String

/-- The other members of the alliance. -/
def Db.otherMembers (db : Db) (allianceId hubKey : String) : List AllianceMemberRow :=
  db.allianceMembers.rows.filter fun row =>
    row.allianceId = allianceId ∧ row.hubPublicKey ≠ hubKey

/-- The token for a member; a login that succeeds is remembered. -/
def fetchPeerToken (world : AllianceWorld) (member : AllianceMemberRow) :
    Handler (Option String) := do
  let token ← .query (·.peerTokens member.hubPublicKey)
  match token with
  | some token => pure (some token)
  | none => do
      let identity ← .query AppState.hubIdentity
      match authenticate world.ed25519 identity (world.peer member.hubUrl).toRemote with
      | .error _ => pure none
      | .ok token => do
          .exec (·.setPeerToken member.hubPublicKey token)
          pure (some token)

/-- Look for the member that owns the channel. -/
def findOwner (world : AllianceWorld) (allianceId channelId : String) :
    List AllianceMemberRow → Handler (Option (String × String))
  | [] => pure none
  | member :: rest => do
      let token ← fetchPeerToken world member
      match token with
      | none => findOwner world allianceId channelId rest
      | some token =>
          match (world.peer member.hubUrl).sharedChannels token allianceId with
          | .json shared =>
              if channelId ∈ shared then pure (some (member.hubUrl, token))
              else findOwner world allianceId channelId rest
          | _ => findOwner world allianceId channelId rest

def ownerNotFound : ApiError :=
  ⟨.notFound, "Alliance channel not found on any member hub"⟩

/-- The name under which a user speaks through this hub. -/
def alliancePrefix (user hubName : String) : Option String → String
  | some name => "[" ++ name ++ " via " ++ hubName ++ "] "
  | none => "[" ++ String.ofList (user.toList.take 16) ++ " via " ++ hubName ++ "] "

/-- `post_alliance_channel_message`. -/
def postAllianceChannelMessage (world : BotWorld) (alliance : AllianceWorld) (env : SendMessageEnv)
    (user allianceId channelId : String) (req : SendMessageRequest) :
    Handler (StatusCode × MessageResponse) := do
  let perms ← userPermissions user
  .ofExcept (perms.require sendMessages)
  let isLocal ← fetch (·.allianceSharedChannels.has (allianceId, channelId))
  if isLocal = true then sendMessage world env user channelId req
  else do
    let hubKey ← .query (·.publicKeyHex alliance.ed25519)
    let members ← fetch (·.otherMembers allianceId hubKey)
    let owner ← findOwner alliance allianceId channelId members
    match owner with
    | none => .fail ownerNotFound
    | some (hubUrl, token) => do
        let displayName ← fetch (·.displayNameOf user)
        let hubName ← fetch fun db => (db.setting "hub_name").getD alliance.hubName
        match ((alliance.peer hubUrl).postMessage token channelId
            (alliancePrefix user hubName displayName ++ req.content)).context
            "Failed to send message to peer" "Invalid message response" with
        | .error e => .fail ⟨.badGateway, "Failed to deliver message to peer: " ++ e⟩
        | .ok message => pure (.created, message)

/-- `get_alliance_channel_messages`. -/
def getAllianceChannelMessages (alliance : AllianceWorld) (user allianceId channelId : String) :
    Handler (List MessageResponse) := do
  let isLocal ← fetch (·.allianceSharedChannels.has (allianceId, channelId))
  if isLocal = true then do
    let rows ← fetch fun db =>
      (newestFirst (db.messages.rows.filter (·.channelId = channelId)) 50).map db.joined
    responses user false rows
  else do
    let hubKey ← .query (·.publicKeyHex alliance.ed25519)
    let members ← fetch (·.otherMembers allianceId hubKey)
    let owner ← findOwner alliance allianceId channelId members
    match owner with
    | none => .fail ownerNotFound
    | some (hubUrl, token) =>
        match ((alliance.peer hubUrl).channelMessages token channelId).context
            "Failed to fetch messages from peer" "Invalid messages response" with
        | .error e => .fail ⟨.badGateway, "Failed to fetch messages from peer: " ++ e⟩
        | .ok messages => pure messages

end Voxply.Hub
