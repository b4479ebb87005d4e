/-
# The hub's store and its request handlers

The tables below carry the columns that the modelled handlers read or write;
the primary keys, uniqueness constraints and foreign keys of the schema are
enforced as the database enforces them: a table cannot hold two rows with one
primary key, and a statement that would break another constraint fails with the
error text of the SQLite driver and changes nothing.

`Handler` is the type of a request handler: a program of atomic statements over
the hub's state that fails with a status code and a message.
-/

import Mathlib.Algebra.Group.Int.Defs
import Voxply.Hub.ChatModels
import Voxply.Identity.Wire
import Voxply.Math.Schedule
import Voxply.Math.Table

namespace Voxply.Hub

open Voxply.Math Voxply.Identity

/-! ## Rows -/

/-- The values the hub writes to `users.approval_status`. -/
inductive ApprovalStatus where
  | approved
  | pending
  | botPending
  deriving DecidableEq

/-- The values the hub writes to `users.lobby_status`. -/
inductive LobbyStatus where
  | none
  | lobby
  | promoted
  deriving DecidableEq

/-- A member of the hub. `masterPubkey` is `none` for single-key users. -/
structure UserRow where
  publicKey : String
  firstSeenAt : Int
  lastSeenAt : Int
  approvalStatus : ApprovalStatus := .approved
  masterPubkey : Option String := none
  isBot : Bool := false
  powLevel : Int := 0
  displayName : Option String := none
  lobbyStatus : LobbyStatus := .none
  lobbyEnteredAt : Option Int := none
  deriving DecidableEq

structure SessionRow where
  token : String
  publicKey : String
  createdAt : Int
  deriving DecidableEq

structure RoleRow where
  id : String
  name : String
  priority : Int
  displaySeparately : Bool := false
  createdAt : Int
  deriving DecidableEq

structure RolePermissionRow where
  roleId : String
  permission : String
  deriving DecidableEq

structure UserRoleRow where
  userPublicKey : String
  roleId : String
  assignedAt : Int
  deriving DecidableEq

structure BanRow where
  targetPublicKey : String
  bannedBy : String
  reason : Option String
  createdAt : Int
  deriving DecidableEq

structure InviteRow where
  code : String
  createdBy : String
  maxUses : Option Int
  uses : Int
  expiresAt : Option Int
  createdAt : Int
  deriving DecidableEq

/-- The key-value configuration of the hub. -/
structure HubSettingRow where
  key : String
  value : String
  deriving DecidableEq

structure BotTokenRow where
  token : String
  publicKey : String
  deriving DecidableEq

structure BotProfileRow where
  pubkey : String
  name : String
  avatarUrl : Option String
  description : Option String
  webhookUrl : Option String
  homepageUrl : Option String
  capabilities : String
  updatedAt : Int
  deriving DecidableEq

structure BotCommandRow where
  pubkey : String
  name : String
  description : String
  args : Option String
  scope : String
  privileged : Bool
  cooldownSeconds : Int
  deriving DecidableEq

structure ChallengeTokenRow where
  token : String
  pubkey : String
  issuedAt : Int
  expiresAt : Int
  consumedAt : Option Int
  deriving DecidableEq

/-- What a bot challenge asks for. The hub writes the first two. -/
inductive ChallengeKind where
  | click
  | puzzle
  | unknown (text : String)
  deriving DecidableEq

structure BotChallengeRow where
  id : String
  pubkey : String
  kind : ChallengeKind
  expectedAnswer : Option String
  createdAt : Int
  expiresAt : Int
  consumedAt : Option Int := none
  deriving DecidableEq

structure SubkeyRevocationRow where
  masterPubkey : String
  subkeyPubkey : String
  revokedAt : Int
  signature : String
  registeredAt : Int
  deriving DecidableEq

structure RecoverySettingRow where
  ownerPubkey : String
  threshold : Int
  createdAt : Int
  deriving DecidableEq

structure RecoveryContactRow where
  ownerPubkey : String
  contactPubkey : String
  createdAt : Int
  deriving DecidableEq

/-- The life of a key rotation request. -/
inductive RotationStatus where
  | pending
  | readyForReview
  | approved
  | rejected
  deriving DecidableEq

structure KeyRotationRow where
  id : String
  oldPubkey : String
  newPubkey : String
  reason : Option String
  status : RotationStatus
  createdAt : Int
  decidedAt : Option Int := none
  decidedBy : Option String := none
  deriving DecidableEq

structure RotationAttestationRow where
  id : String
  requestId : String
  attesterPubkey : String
  signature : String
  attestedAt : Int
  deriving DecidableEq

structure AllianceRow where
  id : String
  name : String
  createdBy : String
  createdAt : Int
  deriving DecidableEq

structure AllianceMemberRow where
  allianceId : String
  hubPublicKey : String
  hubName : String
  hubUrl : String
  joinedAt : Int
  deriving DecidableEq

structure PeerRow where
  publicKey : String
  name : String
  url : String
  addedAt : Int
  deriving DecidableEq

structure BadgeOfferRow where
  id : String
  fromHubPubkey : String
  fromHubUrl : String
  label : String
  note : Option String
  payload : String
  signature : String
  createdAt : String
  deriving DecidableEq

/-- The latest list of home hubs of a master. -/
structure HomeHubDesignationRow where
  masterPubkey : String
  hubsJson : String
  issuedAt : Int
  sequence : Int
  signature : String
  updatedAt : Int
  deriving DecidableEq

structure SubkeyCertRow where
  masterPubkey : String
  subkeyPubkey : String
  deviceLabel : String
  issuedAt : Int
  notAfter : Option Int
  fallbackHubsJson : String
  signature : String
  registeredAt : Int
  deriving DecidableEq

structure PrefsBlobRow where
  masterPubkey : String
  blobVersion : Int
  ciphertextHex : String
  signature : String
  updatedAt : Int
  deriving DecidableEq

/-- The values the hub writes to `pairing_offers.state`. -/
inductive PairingState where
  | pending
  | claimed
  | complete
  deriving DecidableEq

/-- A pairing in progress: the offer, the claim once there is one, and the
certificate once the master has issued it. -/
structure PairingOfferRow where
  pairingToken : String
  masterPubkey : String
  homeHubsJson : String
  issuedAt : Int
  expiresAt : Int
  offerSignature : String
  state : PairingState
  subkeyPubkey : Option String := none
  deviceLabel : Option String := none
  claimProof : Option String := none
  certJson : Option String := none
  wrappedKeyHex : Option String := none
  createdAt : Int
  updatedAt : Int
  deriving DecidableEq

/-- The values the hub writes to `channels.channel_type`. -/
inductive ChannelType where
  | text
  | forum
  deriving DecidableEq

/-- A channel, or a category that holds channels. -/
structure ChannelRow where
  id : String
  name : String
  createdBy : String
  parentId : Option String
  isCategory : Bool := false
  displayOrder : Int := 0
  description : Option String := none
  icon : Option String := none
  color : Option String := none
  customIconSvg : Option String := none
  channelType : ChannelType := .text
  minTalkPower : Int := 0
  createdAt : Int
  deriving DecidableEq

structure PublicHubProfileRow where
  pubkey : String
  profileJson : String
  updatedAt : Int
  deriving DecidableEq

/-- A conversation. Peers send the type of theirs as text, so any text can stand
there. -/
structure ConversationRow where
  id : String
  convType : String
  createdAt : Int
  deriving DecidableEq

/-- A member of a conversation. `hubUrl` is `none` for members of this hub. -/
structure ConversationMemberRow where
  conversationId : String
  publicKey : String
  joinedAt : Int
  hubUrl : Option String := none
  deriving DecidableEq

/-- A direct message. The type of a column does not exclude `NULL`; the
statement that inserts a row does. -/
structure DmMessageRow where
  id : String
  conversationId : String
  sender : String
  content : Option String
  attachments : Option String := none
  signature : Option String := none
  createdAt : Int
  isEncrypted : Bool := false
  ciphertextJson : Option String := none
  deriving DecidableEq

/-- A delivery that is waiting, or that has been given up. -/
structure DmOutboxRow where
  messageId : String
  recipientHubUrl : String
  attempts : Int := 0
  nextAttemptAt : Int
  lastError : Option String := none
  bouncedAt : Option Int := none
  deriving DecidableEq

structure DmBlockRow where
  ownerPubkey : String
  blockedPubkey : String
  deriving DecidableEq

/-- The counter of the audit log; one row, under 1. -/
structure HubAuditSeqRow where
  id : Int
  seq : Int
  deriving DecidableEq

/-- A value in a payload. The hub looks into text only; anything else is given by
its rendering. -/
inductive JsonValue where
  | string (text : String)
  | other (text : String)
  deriving DecidableEq

/-- The payload of an event: an object with its fields, whose order carries no
meaning, or any other value by its rendering. -/
inductive Payload where
  | object (fields : List (String × JsonValue))
  | other (text : String)
  deriving DecidableEq

/-- An event in the audit log. What is read back of a payload is what was
written. -/
structure HubAuditLogRow where
  id : String
  seq : Int
  eventType : String
  atTime : Int
  actorPubkey : Option String
  targetPubkey : Option String
  channelId : Option String
  payloadJson : Payload
  deriving DecidableEq

/-- An event type that a bot wants to hear of, in one channel or, with the empty
text, hub-wide. -/
structure BotSubscriptionRow where
  botPubkey : String
  eventType : String
  channelId : String
  deriving DecidableEq

structure BotChannelScopeRow where
  botPubkey : String
  channelId : String
  deriving DecidableEq

structure ChannelBanRow where
  channelId : String
  targetPublicKey : String
  bannedBy : String
  reason : Option String
  createdAt : Int
  deriving DecidableEq

structure MuteRow where
  targetPublicKey : String
  mutedBy : String
  reason : Option String
  expiresAt : Option Int
  createdAt : Int
  deriving DecidableEq

/-- A message of a channel. The attachments are kept decoded; the order of the
rows is the order of their `rowid`. -/
structure MessageRow where
  id : String
  channelId : String
  sender : String
  content : String
  attachments : List Attachment := []
  replyTo : Option String := none
  createdAt : Int
  editedAt : Option Int := none
  visibleToPubkey : Option String := none
  deriving DecidableEq

structure MessageReactionRow where
  messageId : String
  emoji : String
  userKey : String
  createdAt : Int
  deriving DecidableEq

structure PostRow where
  id : String
  channelId : String
  authorPubkey : String
  title : String
  body : String
  createdAt : Int
  editedAt : Option Int := none
  isPinned : Bool := false
  isLocked : Bool := false
  replyCount : Int := 0
  lastActivityAt : Int
  deletedAt : Option Int := none
  deriving DecidableEq

structure PostReplyRow where
  id : String
  postId : String
  authorPubkey : String
  body : String
  createdAt : Int
  editedAt : Option Int := none
  replyToId : Option String := none
  deletedAt : Option Int := none
  deriving DecidableEq

/-- A row of the full-text index of the forums. A reply is indexed under its post,
with an empty title. -/
structure PostsFtsRow where
  postId : String
  channelId : String
  title : String
  body : String
  deriving DecidableEq

structure AllianceSharedChannelRow where
  allianceId : String
  channelId : String
  sharedAt : Int
  deriving DecidableEq

/-! ## Tables -/

structure GameSessionRow where
  id : String
  channelId : String
  gameId : String
  hostPubkey : String
  stateJson : String
  createdAt : String
  endedAt : Option String := none
  deriving DecidableEq

structure SurveyRow where
  id : String
  enabled : Int
  updatedAt : Int
  deriving DecidableEq

structure SurveyQuestionRow where
  id : String
  surveyId : String
  prompt : String
  kind : String
  required : Int
  displayOrder : Int
  deriving DecidableEq

structure SurveyChoiceRow where
  id : String
  questionId : String
  label : String
  displayOrder : Int
  deriving DecidableEq

/-- A role that a choice brings. -/
structure SurveyChoiceRoleRow where
  choiceId : String
  roleId : String
  deriving DecidableEq

structure SurveyResponseRow where
  id : String
  pubkey : String
  surveyId : String
  submittedAt : Int
  deriving DecidableEq

structure SurveyAnswerRow where
  responseId : String
  questionId : String
  choiceId : Option String
  textAnswer : Option String
  deriving DecidableEq

/-- The values the hub writes to `friends.status`. -/
inductive FriendStatus where
  | pending
  | accepted
  deriving DecidableEq

/-- What `userA` has recorded about `userB`, who may be a user of another hub. -/
structure FriendRow where
  userA : String
  userB : String
  status : FriendStatus
  createdAt : Int
  hubUrl : Option String
  displayName : Option String
  deriving DecidableEq

structure FederatedChannelRow where
  id : String
  peerPublicKey : String
  remoteId : String
  name : String
  createdAt : Int
  lastSyncedAt : Int
  deriving DecidableEq

/-- A badge that the hub has accepted and shows. -/
structure HubBadgeRow where
  id : String
  issuerPubkey : String
  issuerUrl : String
  label : String
  payload : String
  signature : String
  acceptedAt : String
  deriving DecidableEq

/-- The invite that a bot has not accepted yet: `bot_invite_token` and
`bot_invite_expires` of its row in `users`. -/
structure BotInviteRow where
  publicKey : String
  token : String
  expires : Option Int
  deriving DecidableEq

/-- What the hub has certified of its members. -/
structure CertIssuanceRow where
  id : String
  subjectPubkey : String
  powLevel : Option ℕ
  memberSince : Int
  issuedAt : Int
  expiresAt : Int
  revokedAt : Option Int := none
  standing : String
  payloadJson : String
  signature : String
  deriving DecidableEq

def RolePermissionRow.key (row : RolePermissionRow) : String × String :=
  (row.roleId, row.permission)

def UserRoleRow.key (row : UserRoleRow) : String × String :=
  (row.userPublicKey, row.roleId)

def ChannelBanRow.key (row : ChannelBanRow) : String × String :=
  (row.channelId, row.targetPublicKey)

def MessageReactionRow.key (row : MessageReactionRow) : String × String × String :=
  (row.messageId, row.emoji, row.userKey)

def AllianceSharedChannelRow.key (row : AllianceSharedChannelRow) : String × String :=
  (row.allianceId, row.channelId)

def BotCommandRow.key (row : BotCommandRow) : String × String :=
  (row.pubkey, row.name)

def SubkeyRevocationRow.key (row : SubkeyRevocationRow) : String × String :=
  (row.masterPubkey, row.subkeyPubkey)

def RecoveryContactRow.key (row : RecoveryContactRow) : String × String :=
  (row.ownerPubkey, row.contactPubkey)

def AllianceMemberRow.key (row : AllianceMemberRow) : String × String :=
  (row.allianceId, row.hubPublicKey)

def SubkeyCertRow.key (row : SubkeyCertRow) : String × String :=
  (row.masterPubkey, row.subkeyPubkey)

def ConversationMemberRow.key (row : ConversationMemberRow) : String × String :=
  (row.conversationId, row.publicKey)

def DmOutboxRow.key (row : DmOutboxRow) : String × String :=
  (row.messageId, row.recipientHubUrl)

def DmBlockRow.key (row : DmBlockRow) : String × String :=
  (row.ownerPubkey, row.blockedPubkey)

def BotSubscriptionRow.key (row : BotSubscriptionRow) : String × String × String :=
  (row.botPubkey, row.eventType, row.channelId)

def BotChannelScopeRow.key (row : BotChannelScopeRow) : String × String :=
  (row.botPubkey, row.channelId)

def SurveyChoiceRoleRow.key (row : SurveyChoiceRoleRow) : String × String :=
  (row.choiceId, row.roleId)

def FriendRow.key (row : FriendRow) : String × String :=
  (row.userA, row.userB)

def SurveyAnswerRow.key (row : SurveyAnswerRow) : String × String :=
  (row.responseId, row.questionId)

/-- The tables of one hub, each with its primary key. -/
structure Db where
  users : Table UserRow UserRow.publicKey := ∅
  sessions : Table SessionRow SessionRow.token := ∅
  roles : Table RoleRow RoleRow.id := ∅
  rolePermissions : Table RolePermissionRow RolePermissionRow.key := ∅
  userRoles : Table UserRoleRow UserRoleRow.key := ∅
  bans : Table BanRow BanRow.targetPublicKey := ∅
  invites : Table InviteRow InviteRow.code := ∅
  hubSettings : Table HubSettingRow HubSettingRow.key := ∅
  botTokens : Table BotTokenRow BotTokenRow.token := ∅
  botProfiles : Table BotProfileRow BotProfileRow.pubkey := ∅
  botCommands : Table BotCommandRow BotCommandRow.key := ∅
  challengeTokens : Table ChallengeTokenRow ChallengeTokenRow.token := ∅
  subkeyRevocations : Table SubkeyRevocationRow SubkeyRevocationRow.key := ∅
  recoverySettings : Table RecoverySettingRow RecoverySettingRow.ownerPubkey := ∅
  recoveryContacts : Table RecoveryContactRow RecoveryContactRow.key := ∅
  keyRotationRequests : Table KeyRotationRow KeyRotationRow.id := ∅
  rotationAttestations : Table RotationAttestationRow RotationAttestationRow.id := ∅
  alliances : Table AllianceRow AllianceRow.id := ∅
  allianceMembers : Table AllianceMemberRow AllianceMemberRow.key := ∅
  peers : Table PeerRow PeerRow.publicKey := ∅
  badgeOffers : Table BadgeOfferRow BadgeOfferRow.id := ∅
  homeHubDesignations : Table HomeHubDesignationRow HomeHubDesignationRow.masterPubkey := ∅
  subkeyCerts : Table SubkeyCertRow SubkeyCertRow.key := ∅
  prefsBlobs : Table PrefsBlobRow PrefsBlobRow.masterPubkey := ∅
  pairingOffers : Table PairingOfferRow PairingOfferRow.pairingToken := ∅
  channels : Table ChannelRow ChannelRow.id := ∅
  publicHubProfiles : Table PublicHubProfileRow PublicHubProfileRow.pubkey := ∅
  conversations : Table ConversationRow ConversationRow.id := ∅
  conversationMembers : Table ConversationMemberRow ConversationMemberRow.key := ∅
  dmMessages : Table DmMessageRow DmMessageRow.id := ∅
  dmOutbox : Table DmOutboxRow DmOutboxRow.key := ∅
  dmBlocks : Table DmBlockRow DmBlockRow.key := ∅
  hubAuditSeq : Table HubAuditSeqRow HubAuditSeqRow.id := ∅
  hubAuditLog : Table HubAuditLogRow HubAuditLogRow.id := ∅
  botSubscriptions : Table BotSubscriptionRow BotSubscriptionRow.key := ∅
  botChannelScope : Table BotChannelScopeRow BotChannelScopeRow.key := ∅
  channelBans : Table ChannelBanRow ChannelBanRow.key := ∅
  mutes : Table MuteRow MuteRow.targetPublicKey := ∅
  messages : Table MessageRow MessageRow.id := ∅
  messageReactions : Table MessageReactionRow MessageReactionRow.key := ∅
  posts : Table PostRow PostRow.id := ∅
  postReplies : Table PostReplyRow PostReplyRow.id := ∅
  postsFts : List PostsFtsRow := []
  allianceSharedChannels : Table AllianceSharedChannelRow AllianceSharedChannelRow.key := ∅
  botChallenges : Table BotChallengeRow BotChallengeRow.id := ∅
  gameSessions : Table GameSessionRow GameSessionRow.id := ∅
  surveys : Table SurveyRow SurveyRow.id := ∅
  surveyQuestions : Table SurveyQuestionRow SurveyQuestionRow.id := ∅
  surveyChoices : Table SurveyChoiceRow SurveyChoiceRow.id := ∅
  surveyChoiceRoles : Table SurveyChoiceRoleRow SurveyChoiceRoleRow.key := ∅
  surveyResponses : Table SurveyResponseRow SurveyResponseRow.id := ∅
  surveyAnswers : Table SurveyAnswerRow SurveyAnswerRow.key := ∅
  friends : Table FriendRow FriendRow.key := ∅
  /-- Also unique in the pair of the peer and the channel's identifier there. -/
  federatedChannels : Table FederatedChannelRow FederatedChannelRow.id := ∅
  hubBadges : Table HubBadgeRow HubBadgeRow.id := ∅
  botInvites : Table BotInviteRow BotInviteRow.publicKey := ∅
  certIssuances : Table CertIssuanceRow CertIssuanceRow.id := ∅
  /-- The users with `is_bot_removed` set. -/
  removedBots : List String := []
  deriving DecidableEq

/-- What the migrations put into an empty database: the built-in roles with
their permissions, the settings the modelled handlers read, and the counter of
the audit log. -/
def Db.migrated : Db where
  roles := ⟨[⟨"builtin-everyone", "@everyone", 0, false, 0⟩,
    ⟨"builtin-owner", "Owner", 999999, false, 0⟩], by decide⟩
  rolePermissions := ⟨[⟨"builtin-everyone", "send_messages"⟩,
    ⟨"builtin-everyone", "read_messages"⟩, ⟨"builtin-owner", "admin"⟩,
    ⟨"builtin-everyone", "create_posts"⟩, ⟨"builtin-owner", "manage_posts"⟩,
    ⟨"builtin-everyone", "start_game"⟩, ⟨"builtin-owner", "manage_games"⟩], by decide⟩
  hubSettings := ⟨[⟨"invite_only", "false"⟩, ⟨"min_security_level", "0"⟩,
    ⟨"require_approval", "false"⟩, ⟨"lobby_enabled", "1"⟩, ⟨"challenge_mode", "off"⟩,
    ⟨"min_pow_level", "0"⟩, ⟨"cert_mode", "none"⟩, ⟨"cert_trusted_issuers", "[]"⟩,
    ⟨"cert_require", "\x7b\x7d"⟩, ⟨"max_channel_depth", "0"⟩], by decide⟩
  hubAuditSeq := ⟨[⟨1, 0⟩], by decide⟩

/-! ## Errors and handlers -/

/-- The constraint violations a write can report. -/
inductive SqlError where
  | primaryKey (columns : String)
  | unique (columns : String)
  | foreignKey
  | notNull (column : String)
  deriving DecidableEq

/-- The driver's rendering of a constraint violation. -/
def SqlError.text : SqlError → String
  | .primaryKey columns =>
      "error returned from database: (code: 1555) UNIQUE constraint failed: " ++ columns
  | .unique columns =>
      "error returned from database: (code: 2067) UNIQUE constraint failed: " ++ columns
  | .foreignKey =>
      "error returned from database: (code: 787) FOREIGN KEY constraint failed"
  | .notNull column =>
      "error returned from database: (code: 1299) NOT NULL constraint failed: " ++ column

/-- `e.to_string().contains("UNIQUE")`. -/
def SqlError.mentionsUnique : SqlError → Bool
  | .primaryKey _ => true
  | .unique _ => true
  | .foreignKey => false
  | .notNull _ => false

/-- The status codes the modelled handlers answer with. -/
inductive StatusCode where
  | ok
  | created
  | noContent
  | badRequest
  | unauthorized
  | forbidden
  | notFound
  | conflict
  | gone
  | payloadTooLarge
  | unprocessableEntity
  | internalServerError
  | badGateway
  | serviceUnavailable
  deriving DecidableEq

/-- The `(StatusCode, String)` pair that a handler rejects with. -/
structure ApiError where
  status : StatusCode
  message : String
  deriving DecidableEq

/-- The conversion every statement's error goes through. -/
def dbError (e : SqlError) : ApiError :=
  ⟨.internalServerError, "DB error: " ++ e.text⟩

/-- What a query reports that had to return a row and did not. -/
def rowNotFoundText : String :=
  "no rows returned by a query that expected to return at least one row"

def rowNotFound : ApiError :=
  ⟨.internalServerError, "DB error: " ++ rowNotFoundText⟩

/-- A login challenge waiting for its answer. `expiresAt` is on the monotonic
clock. -/
structure PendingChallenge where
  challengeBytes : List UInt8
  expiresAt : ℕ
  deriving DecidableEq

/-- `DmEvent::Message`: what connected members are told about a message. -/
structure DmEvent where
  conversationId : String
  sender : String
  senderName : Option String
  content : String
  timestamp : Int
  deriving DecidableEq

/-- What one hub sends to another to deliver a message. -/
structure FederatedDmRequest where
  messageId : String
  conversationId : String
  convType : String
  sender : String
  members : List String
  content : Option String
  attachments : List Attachment
  signature : Option String
  createdAt : Int
  encryptedEnvelope : Option EncryptedDmEnvelope
  deriving DecidableEq

/-- An attempt to deliver a message to a hub, by the sender's request or by the
retry worker. -/
structure DmAttempt where
  hubUrl : String
  envelope : FederatedDmRequest
  retry : Bool
  deriving DecidableEq

/-- What a `hub_event` frame says of a row beyond the event itself; only replayed
frames say it. -/
structure ReplayedFields where
  actorPubkey : Option String
  targetPubkey : Option String
  channelId : Option String
  deriving DecidableEq

/-- A `hub_event` frame. -/
structure HubEventFrame where
  seq : Int
  event : String
  hubUrl : String
  atTime : Int
  payload : Payload
  replayed : Option ReplayedFields := none
  deriving DecidableEq

/-- A game that is being played. The players are a set. -/
structure GameSessionState where
  id : String
  channelId : String
  gameId : String
  hostPubkey : String
  players : List String
  inMemoryState : Payload
  deriving DecidableEq

/-- The state the handlers share: the store and the in-memory maps that
authentication uses. The hub's own signing key is given by its seed. What the
hub has sent out about direct messages is logged: the broadcasts, each with the
message it announces, the attempted deliveries, and those of a message to a URL
that the remote hub has accepted. A bot that is connected has a session, which
names its connection, and the connection has a queue. What has been broadcast about
the channels is kept in the order of sending. The games that are being played are
held in memory next to their rows. -/
structure AppState where
  db : Db := {}
  hubIdentity : List UInt8 := []
  pendingChallenges : String → Option PendingChallenge := fun _ => none
  peerTokens : String → Option String := fun _ => none
  farmUrl : Option String := none
  cachedFarmPubkey : Option String := none
  lastFarmPubkeyFetch : Int := 0
  dmEvents : List (String × DmEvent) := []
  dmAttempts : List DmAttempt := []
  dmAccepted : List (String × String) := []
  botSessions : String → Option ℕ := fun _ => none
  botQueues : ℕ → List HubEventFrame := fun _ => []
  chatTx : List (ChatEvent × WsServerMessage) := []
  activeGameSessions : String → Option GameSessionState := fun _ => none

/-- A request handler. -/
abbrev Handler (A : Type) := Prog AppState ApiError A

/-- Replace the store. -/
def AppState.withDb (s : AppState) (db : Db) : AppState :=
  { s with db := db }

@[simp]
theorem withDb_db (s : AppState) (db : Db) : (s.withDb db).db = db := rfl

@[simp]
theorem withDb_self (s : AppState) : s.withDb s.db = s := rfl

/-- A `SELECT`. -/
def fetch {A : Type} (f : Db → A) : Handler A :=
  .query fun s => f s.db

/-- A write whose constraint violation is reported through `onError`. -/
def executeOr (onError : SqlError → ApiError) (f : Db → Except SqlError Db) : Handler Unit :=
  .attempt fun s =>
    match f s.db with
    | .ok db => .ok (s.withDb db)
    | .error e => .error (onError e)

/-- A write whose constraint violation becomes an internal error. -/
def execute (f : Db → Except SqlError Db) : Handler Unit :=
  executeOr dbError f

/-- A write that no constraint can refuse. -/
def write (f : Db → Db) : Handler Unit :=
  execute fun db => .ok (f db)

@[simp]
theorem run_fetch {A : Type} (f : Db → A) (s : AppState) :
    (fetch f).run s = (.ok (f s.db), s) := rfl

@[simp]
theorem run_write (f : Db → Db) (s : AppState) :
    (write f).run s = (.ok (), s.withDb (f s.db)) := rfl

/-- A loop of writes. -/
theorem run_each_write {C : Type} (cs : List C) (f : C → Db → Db) (s : AppState) :
    (Prog.each cs fun c => write (f c)).run s =
      (.ok ⟨⟩, s.withDb (cs.foldl (fun db c => f c db) s.db)) := by
  induction cs generalizing s with
  | nil => rfl
  | cons c rest ih =>
      rw [Prog.run_each_cons, Prog.run_bind_of_ok (run_write _ s), ih]
      rfl

theorem run_executeOr_of_ok {onError : SqlError → ApiError} {f : Db → Except SqlError Db}
    {s : AppState} {db : Db} (h : f s.db = .ok db) :
    (executeOr onError f).run s = (.ok (), s.withDb db) := by
  rw [executeOr, Prog.run_attempt, h]

theorem run_executeOr_of_error {onError : SqlError → ApiError} {f : Db → Except SqlError Db}
    {s : AppState} {e : SqlError} (h : f s.db = .error e) :
    (executeOr onError f).run s = (.error (onError e), s) := by
  rw [executeOr, Prog.run_attempt, h]

theorem run_execute_of_ok {f : Db → Except SqlError Db} {s : AppState} {db : Db}
    (h : f s.db = .ok db) : (execute f).run s = (.ok (), s.withDb db) :=
  run_executeOr_of_ok h

theorem run_execute_of_error {f : Db → Except SqlError Db} {s : AppState} {e : SqlError}
    (h : f s.db = .error e) : (execute f).run s = (.error (dbError e), s) :=
  run_executeOr_of_error h

/-- Either the write is refused and the program stops, or the rest runs on what
it has stored. -/
theorem run_executeOr_bind_cases {A : Type} {onError : SqlError → ApiError}
    {f : Db → Except SqlError Db} {g : Unit → Handler A} {s t : AppState} {r : Except ApiError A}
    (h : (executeOr onError f >>= g).run s = (r, t)) :
    t = s ∨ ∃ db, f s.db = .ok db ∧ (g ()).run (s.withDb db) = (r, t) := by
  cases hf : f s.db with
  | error e =>
      rw [Prog.run_bind_of_error (run_executeOr_of_error hf)] at h
      cases h
      exact .inl rfl
  | ok db =>
      rw [Prog.run_bind_of_ok (run_executeOr_of_ok hf)] at h
      exact .inr ⟨db, rfl, h⟩

theorem reads_fetch {A : Type} (f : Db → A) : (fetch f).Reads :=
  Prog.reads_query _

/-- A condition that did not stop a handler holds. -/
theorem of_run_ensure {c : Prop} [Decidable c] {e : ApiError} {s t : AppState}
    (h : (Prog.ensure c e : Handler Unit).run s = (.ok (), t)) : c := by
  by_contra hc
  rw [Prog.run_ensure_of_neg hc] at h
  cases h

theorem changes_write {rel : AppState → AppState → Prop} {f : Db → Db}
    (h : ∀ s, rel s (s.withDb (f s.db))) : (write f).Changes rel :=
  h

theorem changes_execute {rel : AppState → AppState → Prop} (hrefl : ∀ a, rel a a)
    {f : Db → Except SqlError Db} (h : ∀ s db, f s.db = .ok db → rel s (s.withDb db)) :
    (execute f).Changes rel := by
  intro s
  cases hf : f s.db with
  | ok db =>
      rw [run_execute_of_ok hf]
      exact h s db hf
  | error e =>
      rw [run_execute_of_error hf]
      exact hrefl s

section Keeps

variable {rel : AppState → AppState → Prop} {s : AppState}

theorem keeps_fetch {A : Type} (hrefl : ∀ a, rel a a) {f : Db → A} {post : A → AppState → Prop}
    (h : ∀ t t', rel s t → rel t t' → post (f t.db) t') : (fetch f).Keeps rel post s :=
  Prog.keeps_query hrefl h

/-- A query whose answer does not matter. -/
theorem keeps_fetch_any {A : Type} (hrefl : ∀ a, rel a a) {f : Db → A} {inv : AppState → Prop}
    (h : ∀ t t', rel s t → rel t t' → inv t') : (fetch f).Keeps rel (fun _ => inv) s :=
  keeps_fetch hrefl h

theorem keeps_executeOr (hrefl : ∀ a, rel a a) {onError : SqlError → ApiError}
    {f : Db → Except SqlError Db} {post : Unit → AppState → Prop}
    (h : ∀ t db, rel s t → f t.db = .ok db →
      rel t (t.withDb db) ∧ ∀ t', rel (t.withDb db) t' → post () t') :
    (executeOr onError f).Keeps rel post s := by
  apply Prog.keeps_attempt hrefl
  intro t t' hst hf
  cases hdb : f t.db with
  | error e => simp [hdb] at hf
  | ok db =>
      simp only [hdb, Except.ok.injEq] at hf
      subst hf
      exact h t db hst hdb

end Keeps

/-! ## Statements in a history -/

/-- What a write does to the state: nothing when a constraint refuses it. -/
def executed (f : Db → Except SqlError Db) (s : AppState) : AppState :=
  match f s.db with
  | .ok db => s.withDb db
  | .error _ => s

/-- What a write that no constraint can refuse does to the state. -/
def written (f : Db → Db) (s : AppState) : AppState :=
  s.withDb (f s.db)

theorem executed_of_ok {f : Db → Except SqlError Db} {s : AppState} {db : Db}
    (h : f s.db = .ok db) : executed f s = s.withDb db := by
  rw [executed, h]

theorem executed_of_error {f : Db → Except SqlError Db} {s : AppState} {e : SqlError}
    (h : f s.db = .error e) : executed f s = s := by
  rw [executed, h]

/-- A write is refused, or it stores something. -/
theorem executed_cases (f : Db → Except SqlError Db) (s : AppState) :
    executed f s = s ∨ ∃ db, f s.db = .ok db ∧ executed f s = s.withDb db := by
  cases hf : f s.db with
  | error e => exact .inl (executed_of_error hf)
  | ok db => exact .inr ⟨db, rfl, executed_of_ok hf⟩

/-- However its violations are reported. -/
theorem attempted_eq (onError : SqlError → ApiError) (f : Db → Except SqlError Db) :
    Prog.attempted (fun s : AppState => match f s.db with
      | .ok db => .ok (s.withDb db)
      | .error e => .error (onError e)) = executed f := by
  funext s
  unfold Prog.attempted executed
  dsimp only
  cases f s.db <;> rfl

section Follows

variable {good : List (Sent AppState) → Sent AppState → Prop} {past : List (Sent AppState)}

theorem follows_fetch_bind {A B : Type} {f : Db → A} {g : A → Handler B}
    {post : B → List (Sent AppState) → Prop} (hgood : ∀ s, good past ⟨id, s⟩)
    (hnext : ∀ s, (g (f s.db)).Follows good post (past ++ [⟨id, s⟩])) :
    (fetch f >>= g).Follows good post past :=
  fun s => ⟨hgood s, hnext s⟩

theorem follows_executeOr {onError : SqlError → ApiError} {f : Db → Except SqlError Db}
    {post : Unit → List (Sent AppState) → Prop} (hgood : ∀ s, good past ⟨executed f, s⟩)
    (hpost : ∀ s db, f s.db = .ok db → post () (past ++ [⟨executed f, s⟩])) :
    (executeOr onError f).Follows good post past := by
  apply Prog.follows_attempt (attempted_eq onError f) hgood
  intro s t hf
  cases hdb : f s.db with
  | ok db => exact hpost s db hdb
  | error e => simp [hdb] at hf

theorem follows_execute {f : Db → Except SqlError Db} {post : Unit → List (Sent AppState) → Prop}
    (hgood : ∀ s, good past ⟨executed f, s⟩)
    (hpost : ∀ s db, f s.db = .ok db → post () (past ++ [⟨executed f, s⟩])) :
    (execute f).Follows good post past :=
  follows_executeOr hgood hpost

theorem follows_execute_bind {A : Type} {f : Db → Except SqlError Db} {g : Unit → Handler A}
    {post : A → List (Sent AppState) → Prop} (hgood : ∀ s, good past ⟨executed f, s⟩)
    (hnext : ∀ s db, f s.db = .ok db → (g ()).Follows good post (past ++ [⟨executed f, s⟩])) :
    (execute f >>= g).Follows good post past := by
  apply Prog.Follows.bind
    (follows_execute hgood hnext : (execute f).Follows good
    (fun _ past => (g ()).Follows good post past) past)
  exact fun _ _ _ h => h

theorem always_execute_bind {A : Type}
    {cond : Option (Except ApiError A) → List (Sent AppState) → Prop}
    {f : Db → Except SqlError Db} {g : Unit → Handler A} (hrunning : cond none past)
    (herror : ∀ s e, f s.db = .error e →
      cond (some (.error (dbError e))) (past ++ [⟨executed f, s⟩]))
    (hok : ∀ s db, f s.db = .ok db → (g ()).Always cond (past ++ [⟨executed f, s⟩])) :
    (execute f >>= g).Always cond past := by
  apply Prog.always_attempt_bind (attempted_eq dbError f) hrunning
  · intro s e hf
    cases hdb : f s.db with
    | ok db => simp [hdb] at hf
    | error e' =>
        simp only [hdb, Except.error.injEq] at hf
        exact hf ▸ herror s e' hdb
  · intro s t hf
    cases hdb : f s.db with
    | ok db => exact hok s db hdb
    | error e' => simp [hdb] at hf

theorem always_fetch_bind {A B : Type}
    {cond : Option (Except ApiError B) → List (Sent AppState) → Prop} {f : Db → A}
    {g : A → Handler B} (hrunning : cond none past)
    (hnext : ∀ s, (g (f s.db)).Always cond (past ++ [⟨id, s⟩])) :
    (fetch f >>= g).Always cond past :=
  ⟨hrunning, hnext⟩

theorem always_write_bind {A : Type}
    {cond : Option (Except ApiError A) → List (Sent AppState) → Prop}
    {f : Db → Db} {g : Unit → Handler A} (hrunning : cond none past)
    (hnext : ∀ s, (g ()).Always cond (past ++ [⟨written f, s⟩])) :
    (write f >>= g).Always cond past :=
  ⟨hrunning, hnext⟩

theorem follows_write {f : Db → Db} {post : Unit → List (Sent AppState) → Prop}
    (hgood : ∀ s, good past ⟨written f, s⟩) (hpost : ∀ s, post () (past ++ [⟨written f, s⟩])) :
    (write f).Follows good post past :=
  fun s => ⟨hgood s, hpost s⟩

theorem follows_write_bind {A : Type} {f : Db → Db} {g : Unit → Handler A}
    {post : A → List (Sent AppState) → Prop} (hgood : ∀ s, good past ⟨written f, s⟩)
    (hnext : ∀ s, (g ()).Follows good post (past ++ [⟨written f, s⟩])) :
    (write f >>= g).Follows good post past :=
  fun s => ⟨hgood s, hnext s⟩

end Follows

/-! ## Sessions -/

/-- `DELETE FROM sessions WHERE public_key = ?`. -/
def deleteSessions (publicKey : String) (db : Db) : Db :=
  { db with sessions := db.sessions.keep (·.publicKey ≠ publicKey) }

/-- No session of the key is left by the deletion. -/
theorem not_mem_deleteSessions {publicKey : String} {db : Db} {row : SessionRow}
    (h : row ∈ (deleteSessions publicKey db).sessions.rows) : row.publicKey ≠ publicKey := by
  have hkept := (List.mem_filter.mp h).2
  simpa using hkept

/-! ## Settings -/

/-- `SELECT value FROM hub_settings WHERE key = ?`. -/
def Db.setting (db : Db) (key : String) : Option String :=
  (db.hubSettings.find? key).map (·.value)

/-- The digits of a decimal literal, most significant first. -/
def digitsVal : List Char → Option ℕ
  | [] => none
  | chars =>
      chars.foldl (fun acc c => acc.bind fun n =>
        if c.isDigit then some (n * 10 + (c.toNat - 48)) else none) (some 0)

/-- `str::parse` to an unsigned type with the given number of values: an
optional plus sign, at least one decimal digit, and no overflow. -/
def parseUnsigned (bound : ℕ) (s : String) : Option ℕ :=
  let digits := match s.toList with
    | '+' :: rest => digitsVal rest
    | chars => digitsVal chars
  digits.filter (· < bound)

/-- `str::parse` to a signed type: an optional sign, at least one decimal digit, and a
value from `-bound` on and below `bound`. -/
def parseSigned (bound : ℕ) (s : String) : Option Int :=
  match s.toList with
  | '-' :: rest => ((digitsVal rest).filter (· ≤ bound)).map fun n => -Int.ofNat n
  | _ => (parseUnsigned bound s).map Int.ofNat

/-- The characters with the `White_Space` property. -/
def isWhitespace (c : Char) : Bool :=
  (9 ≤ c.toNat ∧ c.toNat ≤ 13) ∨ (0x2000 ≤ c.toNat ∧ c.toNat ≤ 0x200A) ∨
    c.toNat ∈ [0x20, 0x85, 0xA0, 0x1680, 0x2028, 0x2029, 0x202F, 0x205F, 0x3000]

/-- `str::trim`. -/
def trim (s : String) : String :=
  String.ofList ((s.toList.dropWhile isWhitespace).reverse.dropWhile isWhitespace).reverse

end Voxply.Hub
