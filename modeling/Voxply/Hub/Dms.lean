/-
# Direct messages

A conversation has members, some of them on other hubs.  A member sends a
message by storing it, telling the connected members and delivering it to the
hubs of the remote ones; a delivery that fails stays in the outbox for the retry
worker.  The hub at the other end stores what it receives under the identifier
that the sender's hub has drawn, and creates the conversation if it does not
know it.

Conversations, members, messages and outbox rows are written by separate
statements.  Deliveries are attempted one after the other; what the remote hub
answers to each of them is a parameter.
-/

import Voxply.Hub.Federation
import Voxply.Hub.IdentityStore
import Voxply.Hub.RotationDecision
import Mathlib.Algebra.GroupWithZero.Nat
import Mathlib.Data.List.Sort

namespace Voxply.Hub

open Voxply.Math Voxply.Identity

/-! ## Data -/

def maxAttachmentsBytes : ℕ := 3 * 1024 * 1024

structure CreateConversationRequest where
  members : List String
  memberHubs : List (String × String) := []
  deriving DecidableEq

structure ConversationResponse where
  id : String
  convType : String
  members : List String
  createdAt : Int
  lastActivityAt : Int
  deriving DecidableEq

structure SendDmRequest where
  content : Option String := none
  attachments : List Attachment := []
  encryptedEnvelope : Option EncryptedDmEnvelope := none
  deriving DecidableEq

structure DmMessageResponse where
  id : String
  conversationId : String
  sender : String
  senderName : Option String
  content : Option String
  createdAt : Int
  attachments : List Attachment
  deliveryFailed : Bool
  isEncrypted : Bool
  encryptedEnvelope : Option EncryptedDmEnvelope
  deriving DecidableEq

structure ConvMember where
  publicKey : String
  hubUrl : Option String
  deriving DecidableEq

/-- `serde_json` on the values that are stored as text, and what `hex` says about
a text that it cannot decode. -/
structure DmCodec where
  writeAttachments : List Attachment → Except String String
  readAttachments : String → Except String (List Attachment)
  writeEnvelope : EncryptedDmEnvelope → Except String String
  readEnvelope : String → Except String EncryptedDmEnvelope
  readUrls : String → Except String (List String)
  hexError : String → String

/-- What has been written is read back, and the empty text is not JSON. -/
structure DmCodec.RoundTrips (codec : DmCodec) : Prop where
  attachments : ∀ list text, codec.writeAttachments list = .ok text →
    codec.readAttachments text = .ok list
  envelope : ∀ env text, codec.writeEnvelope env = .ok text → codec.readEnvelope text = .ok env
  empty : ∀ list, codec.readAttachments "" ≠ .ok list

/-- The library as far as recorded texts tell, for evaluating the model on
concrete input. -/
def DmCodec.ofRecorded (attachments : List (List Attachment × String))
    (envelopes : List (EncryptedDmEnvelope × String)) (urls : List (List String × String)) :
    DmCodec where
  writeAttachments := recordedText attachments
  readAttachments := recordedValue attachments
  writeEnvelope := recordedText envelopes
  readEnvelope := recordedValue envelopes
  readUrls := recordedValue urls
  hexError := fun _ => "not recorded"

theorem DmCodec.roundTrips_ofRecorded {attachments : List (List Attachment × String)}
    {envelopes : List (EncryptedDmEnvelope × String)} {urls : List (List String × String)}
    (hattachments : (attachments.map Prod.snd).Nodup) (henvelopes : (envelopes.map Prod.snd).Nodup)
    (hempty : ∀ entry ∈ attachments, entry.2 ≠ "") :
    (DmCodec.ofRecorded attachments envelopes urls).RoundTrips where
  attachments _ _ h := recordedValue_recordedText hattachments h
  envelope _ _ h := recordedValue_recordedText henvelopes h
  empty list h := by
    have hnone : attachments.find? (·.2 = "") = none := by
      rw [List.find?_eq_none]
      exact fun entry hentry => by simpa using hempty entry hentry
    have herror : recordedValue attachments "" = .error "not recorded" := by
      rw [recordedValue, hnone]
      rfl
    rw [show (DmCodec.ofRecorded attachments envelopes urls).readAttachments "" =
      recordedValue attachments "" from rfl, herror] at h
    cases h

/-- The status line of an answer. -/
structure HttpStatus where
  code : ℕ
  text : String
  deriving DecidableEq

/-- The hub at the other end of one delivery: how it answers a login and, given
the token and the message, the delivery itself. -/
structure DeliveryEnv where
  now : Int
  remote : Remote
  post : String → FederatedDmRequest → Option HttpStatus

/-! ## What the handlers read -/

def Db.membersOf (db : Db) (conversationId : String) : List ConversationMemberRow :=
  db.conversationMembers.rows.filter (·.conversationId = conversationId)

/-- The conversations of type `dm` that two users share. -/
def Db.sharedDms (db : Db) (userA userB : String) : List String :=
  (db.conversationMembers.rows.filter fun row => row.publicKey = userA ∧
    db.conversationMembers.has (row.conversationId, userB) ∧
    (db.conversations.find? row.conversationId).map (·.convType) = some "dm").map
      (·.conversationId)

def Db.convType? (db : Db) (conversationId : String) : Option String :=
  (db.conversations.find? conversationId).map (·.convType)

def Db.displayNameOf (db : Db) (publicKey : String) : Option String :=
  (db.users.find? publicKey).bind (·.displayName)

/-- `is_dm_blocked`. -/
def Db.isDmBlocked (db : Db) (recipient sender : String) : Bool :=
  db.dmBlocks.has (recipient, sender)

/-- `load_members`. -/
def Db.loadMembers (db : Db) (conversationId : String) : List ConvMember :=
  (db.membersOf conversationId).map fun row => ⟨row.publicKey, row.hubUrl⟩

def memberKeys (members : List ConvMember) : List String :=
  members.map (·.publicKey)

/-! ## Statements -/

/-- `INSERT INTO conversations`. -/
def insertConversation (row : ConversationRow) (db : Db) : Except SqlError Db :=
  match db.conversations.insert? row with
  | none => .error (.primaryKey "conversations.id")
  | some conversations => .ok { db with conversations := conversations }

/-- `INSERT INTO conversation_members`. -/
def insertMember (row : ConversationMemberRow) (db : Db) : Except SqlError Db :=
  match db.conversationMembers.insert? row with
  | none => .error (.primaryKey
      "conversation_members.conversation_id, conversation_members.public_key")
  | some conversationMembers =>
      if db.conversations.has row.conversationId ∧ db.users.has row.publicKey then
        .ok { db with conversationMembers := conversationMembers }
      else .error .foreignKey

/-- `INSERT OR IGNORE INTO conversation_members`: a taken key is ignored, a
dangling reference is not. -/
def insertMemberOrIgnore (row : ConversationMemberRow) (db : Db) : Except SqlError Db :=
  match db.conversationMembers.insert? row with
  | none => .ok db
  | some conversationMembers =>
      if db.conversations.has row.conversationId ∧ db.users.has row.publicKey then
        .ok { db with conversationMembers := conversationMembers }
      else .error .foreignKey

/-- `INSERT INTO dm_messages`. The column `content` was created `NOT NULL`. -/
def insertDmMessage (row : DmMessageRow) (db : Db) : Except SqlError Db :=
  if row.content = none then .error (.notNull "dm_messages.content")
  else match db.dmMessages.insert? row with
    | none => .error (.primaryKey "dm_messages.id")
    | some dmMessages => .ok { db with dmMessages := dmMessages }

/-- `INSERT OR IGNORE INTO dm_outbox`. -/
def insertOutboxOrIgnore (row : DmOutboxRow) (db : Db) : Except SqlError Db :=
  match db.dmOutbox.insert? row with
  | none => .ok db
  | some dmOutbox =>
      if db.dmMessages.has row.messageId then .ok { db with dmOutbox := dmOutbox }
      else .error .foreignKey

/-- `DELETE FROM dm_outbox WHERE message_id = ? AND recipient_hub_url = ?`. -/
def deleteOutbox (messageId hubUrl : String) (db : Db) : Db :=
  { db with dmOutbox := db.dmOutbox.keep (·.key ≠ (messageId, hubUrl)) }

/-- `UPDATE dm_outbox SET … WHERE message_id = ? AND recipient_hub_url = ?`. -/
def updateOutbox (messageId hubUrl : String) (f : DmOutboxRow → DmOutboxRow)
    (hkey : ∀ row, (f row).key = row.key) (db : Db) : Db :=
  { db with dmOutbox := db.dmOutbox.update (·.key = (messageId, hubUrl)) f hkey }

/-- What a failed first attempt leaves in the outbox. -/
def failOutbox (messageId hubUrl : String) (nextAttemptAt : Int) (error : String) : Db → Db :=
  updateOutbox messageId hubUrl
    (fun row => { row with
      attempts := 1, nextAttemptAt := nextAttemptAt, lastError := some error }) fun _ => rfl

/-- `INSERT INTO peers … ON CONFLICT(public_key) DO UPDATE SET name = ?, url = ?`. -/
def upsertPeer (row : PeerRow) (db : Db) : Db :=
  { db with
    peers := db.peers.upsert row (fun old => { old with name := row.name, url := row.url })
      fun _ => rfl }

/-- `dm_tx.send`. -/
def AppState.announce (s : AppState) (messageId : String) (event : DmEvent) : AppState :=
  { s with dmEvents := s.dmEvents ++ [(messageId, event)] }

def AppState.noteAttempt (s : AppState) (attempt : DmAttempt) : AppState :=
  { s with dmAttempts := s.dmAttempts ++ [attempt] }

def AppState.noteAccepted (s : AppState) (messageId hubUrl : String) : AppState :=
  { s with dmAccepted := s.dmAccepted ++ [(messageId, hubUrl)] }

/-! ## Conversations -/

/-- `ensure_user_stub`. -/
def ensureUserStub (publicKey : String) (now : Int) : Handler Unit :=
  write (insertUserOrIgnore publicKey now)

/-- The loop of `find_existing_dm` over the shared conversations. -/
def firstPair (userA userB : String) : List String → Handler (Option ConversationResponse)
  | [] => pure none
  | convId :: rest => do
      let memberCount ← fetch fun db => (db.membersOf convId).length
      if memberCount = 2 then do
        let conv ← fetch (·.conversations.find? convId)
        match conv with
        | none => .fail rowNotFound
        | some conv =>
            pure (some ⟨conv.id, conv.convType, [userA, userB], conv.createdAt, conv.createdAt⟩)
      else firstPair userA userB rest

/-- `find_existing_dm`. -/
def findExistingDm (userA userB : String) : Handler (Option ConversationResponse) := do
  let convs ← fetch (·.sharedDms userA userB)
  firstPair userA userB convs

/-- The type of a conversation with the given other members. -/
def newConvType (members : List String) : String :=
  if members.length = 1 then "dm" else "group"

/-- The lookup that `create_conversation` makes for one other member. -/
def lookupPair (user : String) : List String → Handler (Option ConversationResponse)
  | [other] => findExistingDm user other
  | _ => pure none

/-- Add another member. Remote members may not yet exist in the users table. -/
def addMember (id : String) (now : Int) (hubs : List (String × String)) (memberKey : String) :
    Handler Unit := do
  ensureUserStub memberKey now
  execute (insertMember ⟨id, memberKey, now, hubs.lookup memberKey⟩)

/-- `create_conversation`. The new identifier is drawn by the caller. -/
def createConversation (id : String) (now : Int) (user : String)
    (req : CreateConversationRequest) : Handler (StatusCode × ConversationResponse) := do
  .ensure (req.members ≠ []) ⟨.badRequest, "Need at least one other member"⟩
  let existing ← lookupPair user req.members
  match existing with
  | some conv => pure (.ok, conv)
  | none => do
      execute (insertConversation ⟨id, newConvType req.members, now⟩)
      -- Add the creator (always local)
      execute (insertMember ⟨id, user, now, none⟩)
      .each req.members (addMember id now req.memberHubs)
      pure (.created, ⟨id, newConvType req.members, req.members ++ [user], now, now⟩)

/-! ## Delivery -/

/-- The `POST` at the end of `deliver_federated_dm`. -/
def postFederatedDm (env : DeliveryEnv) (hubUrl token : String) (envelope : FederatedDmRequest) :
    Handler (Except String Unit) :=
  match env.post token envelope with
  | none => pure (.error "deliver: Failed to deliver DM to peer")
  | some status =>
      if 200 ≤ status.code ∧ status.code < 300 then do
        .exec (·.noteAccepted envelope.messageId hubUrl)
        pure (.ok ())
      else pure (.error ("remote hub returned " ++ status.text))

/-- Log in to the remote hub and remember it as a peer. -/
def loginToPeer (lib : Crates) (env : DeliveryEnv) (hubUrl : String) :
    Handler (Except String String) := do
  let identity ← .query AppState.hubIdentity
  match authenticate lib.ed25519 identity env.remote with
  | .error e => pure (.error ("authenticate: " ++ e))
  | .ok fresh =>
      match getInfo env.remote with
      | .error e => pure (.error ("get_info: " ++ e))
      | .ok info => do
          write (upsertPeer ⟨info.publicKey, info.name, hubUrl, env.now⟩)
          .exec (·.setPeerToken info.publicKey fresh)
          pure (.ok fresh)

/-- The session token for a remote hub, if one is cached. -/
def cachedToken (hubUrl : String) : Handler (Option String) := do
  let peerKey ← fetch fun db => (db.peers.rows.find? (·.url = hubUrl)).map (·.publicKey)
  match peerKey with
  | some key => .query (·.peerTokens key)
  | none => pure none

/-- `deliver_federated_dm`. An error is a value: the caller goes on. -/
def deliverFederatedDm (lib : Crates) (env : DeliveryEnv) (retry : Bool) (hubUrl : String)
    (envelope : FederatedDmRequest) : Handler (Except String Unit) := do
  .exec (·.noteAttempt ⟨hubUrl, envelope, retry⟩)
  let cached ← cachedToken hubUrl
  match cached with
  | some token => postFederatedDm env hubUrl token envelope
  | none => do
      let login ← loginToPeer lib env hubUrl
      match login with
      | .error e => pure (.error e)
      | .ok token => postFederatedDm env hubUrl token envelope

/-- The URLs that a member's messages are delivered to: the home hubs they have
designated, or else the hub recorded with the membership. -/
def chooseUrls (designation : Option (List String)) (hubUrl : Option String) : List String :=
  match designation with
  | some (url :: urls) => url :: urls
  | _ => hubUrl.toList

/-- The resolution of a member's delivery URLs, in two queries. -/
def deliveryUrls (codec : DmCodec) (m : ConvMember) : Handler (List String) := do
  let masterPubkey ← fetch fun db => (db.users.find? m.publicKey).bind (·.masterPubkey)
  match masterPubkey with
  | none => pure (chooseUrls none m.hubUrl)
  | some mpk => do
      let hubsJson ← fetch fun db => (db.homeHubDesignations.find? mpk).map (·.hubsJson)
      pure (chooseUrls (hubsJson.bind fun text => (codec.readUrls text).toOption) m.hubUrl)

/-- The URLs of a member as one consistent reading of the store. -/
def Db.deliveryUrls (db : Db) (codec : DmCodec) (m : ConvMember) : List String :=
  let designation := (db.users.find? m.publicKey).bind (·.masterPubkey) |>.bind fun mpk =>
    (db.homeHubDesignations.find? mpk).bind fun row => (codec.readUrls row.hubsJson).toOption
  chooseUrls designation m.hubUrl

/-! ## Sending -/

/-- Whether a member other than the sender has blocked the sender. -/
def isBlockedBy (sender : String) : List String → Handler Bool
  | [] => pure false
  | member :: rest =>
      if member = sender then isBlockedBy sender rest
      else do
        let blocked ← fetch (·.isDmBlocked member sender)
        if blocked then pure true else isBlockedBy sender rest

/-- Exactly one of content and envelope, and an envelope in 1:1 DMs only. Returns
whether the message is encrypted. -/
def SendDmRequest.bodyKind (req : SendDmRequest) (convType : String) : Except ApiError Bool :=
  match req.content, req.encryptedEnvelope with
  | none, none => .error ⟨.badRequest, "Either content or encrypted_envelope is required"⟩
  | some _, some _ => .error ⟨.badRequest, "Provide content or encrypted_envelope, not both"⟩
  | none, some _ =>
      if convType ≠ "dm" then .error ⟨.badRequest, "E2E encryption is only supported for 1:1 DMs"⟩
      else .ok true
  | some _, none => .ok false

def checkAttachments (attachments : List Attachment) : Except ApiError Unit :=
  if (attachments.map fun a => a.dataB64.utf8ByteSize).sum > maxAttachmentsBytes then
    .error ⟨.payloadTooLarge, "Attachments exceed 3MB cap"⟩
  else .ok ()

/-- The signature of an envelope, checked under the sender's key. -/
def checkEnvelope (E : Ed25519) (codec : DmCodec) (sender : String) (env : EncryptedDmEnvelope) :
    Except ApiError Unit :=
  match hexDecode env.signatureHex with
  | none => .error ⟨.badRequest, "Bad signature hex: " ++ codec.hexError env.signatureHex⟩
  | some sigBytes =>
      (verifySignature E sender (envelopeSigningBytes env) sigBytes).mapError
        fun e => ⟨.badRequest, "Invalid envelope signature: " ++ e⟩

/-- Only an encrypted message has an envelope to check. -/
def checkEncrypted (E : Ed25519) (codec : DmCodec) (sender : String) :
    Bool → Option EncryptedDmEnvelope → Except ApiError Unit
  | true, some env => checkEnvelope E codec sender env
  | _, _ => .ok ()

def encodeError (what e : String) : ApiError :=
  ⟨.internalServerError, what ++ ": " ++ e⟩

/-- The `attachments` column of a new message. -/
def attachmentsColumn (codec : DmCodec) (attachments : List Attachment) :
    Except ApiError (Option String) :=
  if attachments = [] then .ok none
  else ((codec.writeAttachments attachments).map some).mapError (encodeError "Encode")

/-- The `ciphertext_json` column of a new message. -/
def ciphertextColumn (codec : DmCodec) (envelope : Option EncryptedDmEnvelope) :
    Except ApiError (Option String) :=
  match envelope with
  | none => .ok none
  | some env => ((codec.writeEnvelope env).map some).mapError (encodeError "Encode envelope")

/-- What `send_dm` draws and meets on its way: an identifier, the time and the
answers of the remote hubs, by member and by URL. -/
structure SendEnv where
  messageId : String
  now : Int
  delivery : ℕ → ℕ → DeliveryEnv

/-- What `send_dm` checks before it stores: the body, the attachments and the
signature of an envelope. -/
def SendDmRequest.validate (req : SendDmRequest) (E : Ed25519) (codec : DmCodec)
    (user convType : String) : Except ApiError Bool := do
  let isEncrypted ← req.bodyKind convType
  checkAttachments req.attachments
  checkEncrypted E codec user isEncrypted req.encryptedEnvelope
  .ok isEncrypted

/-- The row that a message is stored as. -/
def SendDmRequest.row (req : SendDmRequest) (codec : DmCodec) (env : SendEnv)
    (user conversationId : String) (attachmentsJson : Option String) :
    Bool → Except ApiError DmMessageRow
  | true => do
      let ciphertextJson ← ciphertextColumn codec req.encryptedEnvelope
      .ok { id := env.messageId, conversationId := conversationId, sender := user,
            content := none, attachments := attachmentsJson, createdAt := env.now,
            isEncrypted := true, ciphertextJson := ciphertextJson }
  | false =>
      .ok { id := env.messageId, conversationId := conversationId, sender := user,
            content := some (req.content.getD ""), attachments := attachmentsJson,
            createdAt := env.now }

/-- The answer to a message that has been stored. -/
def SendDmRequest.response (req : SendDmRequest) (env : SendEnv) (user conversationId : String)
    (senderName : Option String) (isEncrypted : Bool) : DmMessageResponse where
  id := env.messageId
  conversationId := conversationId
  sender := user
  senderName := senderName
  content := req.content
  createdAt := env.now
  attachments := req.attachments
  deliveryFailed := false
  isEncrypted := isEncrypted
  encryptedEnvelope := req.encryptedEnvelope

/-- The answer to a blocked sender. -/
def SendDmRequest.placeholder (req : SendDmRequest) (env : SendEnv)
    (user conversationId : String) : DmMessageResponse where
  id := env.messageId
  conversationId := conversationId
  sender := user
  senderName := none
  content := req.content
  createdAt := env.now
  attachments := req.attachments
  deliveryFailed := false
  isEncrypted := false
  encryptedEnvelope := none

/-- The message as it is sent to other hubs. -/
def SendDmRequest.envelope (req : SendDmRequest) (env : SendEnv)
    (user conversationId convType : String) (memberKeys : List String) : FederatedDmRequest where
  messageId := env.messageId
  conversationId := conversationId
  convType := convType
  sender := user
  members := memberKeys
  content := req.content
  attachments := req.attachments
  signature := none
  createdAt := env.now
  encryptedEnvelope := req.encryptedEnvelope

/-- What connected members are told. -/
def wsContent (isEncrypted : Bool) (content : Option String) : String :=
  if isEncrypted then "[encrypted]" else content.getD ""

/-- Queue a delivery, try it at once, and take it out of the queue or leave it
for the worker. -/
def deliverTo (lib : Crates) (now : Int) (envelope : FederatedDmRequest) (hubUrl : String)
    (env : DeliveryEnv) : Handler Unit := do
  execute (insertOutboxOrIgnore
    { messageId := envelope.messageId, recipientHubUrl := hubUrl, nextAttemptAt := now })
  let result ← deliverFederatedDm lib env false hubUrl envelope
  match result with
  | .ok () => write (deleteOutbox envelope.messageId hubUrl)
  | .error e => write (failOutbox envelope.messageId hubUrl (now + 10) e)

/-- The deliveries for one member. -/
def federateTo (lib : Crates) (codec : DmCodec) (now : Int) (user : String)
    (envelope : FederatedDmRequest) (m : ConvMember) (delivery : ℕ → DeliveryEnv) :
    Handler Unit :=
  if m.publicKey = user then pure ()
  else do
    let urls ← deliveryUrls codec m
    .each urls.zipIdx fun entry => deliverTo lib now envelope entry.1 (delivery entry.2)

/-- The deliveries for all members but the sender. -/
def federate (lib : Crates) (codec : DmCodec) (env : SendEnv) (user : String)
    (envelope : FederatedDmRequest) (members : List ConvMember) : Handler Unit :=
  .each members.zipIdx fun entry =>
    federateTo lib codec env.now user envelope entry.1 (env.delivery entry.2)

/-- A message that has passed its checks. -/
structure ComposedDm where
  row : DmMessageRow
  isEncrypted : Bool
  convType : String
  deriving DecidableEq

/-- Check a message and build its row. -/
def SendDmRequest.compose (req : SendDmRequest) (lib : Crates) (codec : DmCodec) (env : SendEnv)
    (user conversationId : String) (convType : Option String) : Except ApiError ComposedDm := do
  let convType ← convType.elim (.error ⟨.notFound, "Conversation not found"⟩) .ok
  let isEncrypted ← req.validate lib.ed25519 codec user convType
  let attachmentsJson ← attachmentsColumn codec req.attachments
  let row ← req.row codec env user conversationId attachmentsJson isEncrypted
  .ok ⟨row, isEncrypted, convType⟩

/-- Store a message, broadcast it to the connected members and deliver it to the
remote ones. -/
def publishDm (lib : Crates) (codec : DmCodec) (env : SendEnv) (user conversationId : String)
    (req : SendDmRequest) (members : List ConvMember) (dm : ComposedDm) :
    Handler (StatusCode × DmMessageResponse) := do
  execute (insertDmMessage dm.row)
  let senderName ← fetch (·.displayNameOf user)
  .exec (·.announce env.messageId ⟨conversationId, user, senderName,
    wsContent dm.isEncrypted req.content, env.now⟩)
  federate lib codec env user
    (req.envelope env user conversationId dm.convType (memberKeys members)) members
  pure (.created, req.response env user conversationId senderName dm.isEncrypted)

/-- `send_dm`. -/
def sendDm (lib : Crates) (codec : DmCodec) (env : SendEnv) (user conversationId : String)
    (req : SendDmRequest) : Handler (StatusCode × DmMessageResponse) := do
  let members ← fetch (·.loadMembers conversationId)
  .ensure (user ∈ memberKeys members) ⟨.forbidden, "Not a member of this conversation"⟩
  let blocked ← isBlockedBy user (memberKeys members)
  if blocked then pure (.created, req.placeholder env user conversationId)
  else do
    let convType ← fetch (·.convType? conversationId)
    let dm ← .ofExcept (req.compose lib codec env user conversationId convType)
    publishDm lib codec env user conversationId req members dm

/-! ## Receiving -/

/-- The row that a received message is stored as. A list of attachments that
cannot be encoded is dropped. -/
def FederatedDmRequest.row (req : FederatedDmRequest) (E : Ed25519) (codec : DmCodec) :
    Except ApiError DmMessageRow := do
  let attachmentsJson :=
    if req.attachments = [] then none else (codec.writeAttachments req.attachments).toOption
  match req.encryptedEnvelope with
  | some env =>
      checkEnvelope E codec req.sender env
      let ciphertextJson ← (codec.writeEnvelope env).mapError (encodeError "Encode")
      .ok { id := req.messageId, conversationId := req.conversationId, sender := req.sender,
            content := none, attachments := attachmentsJson, signature := req.signature,
            createdAt := req.createdAt, isEncrypted := true,
            ciphertextJson := some ciphertextJson }
  | none =>
      .ok { id := req.messageId, conversationId := req.conversationId, sender := req.sender,
            content := some (req.content.getD ""), attachments := attachmentsJson,
            signature := req.signature, createdAt := req.createdAt }

/-- Add a member that a peer has named. -/
def adoptMember (conversationId : String) (createdAt : Int) (member : String) : Handler Unit := do
  ensureUserStub member createdAt
  execute (insertMemberOrIgnore ⟨conversationId, member, createdAt, none⟩)

/-- Create a conversation that a peer has named. -/
def adoptConversation (req : FederatedDmRequest) : Handler Unit := do
  execute (insertConversation ⟨req.conversationId, req.convType, req.createdAt⟩)
  .each req.members (adoptMember req.conversationId req.createdAt)

/-- The end of `receive_federated_dm`: store the message and announce it. -/
def storeReceived (E : Ed25519) (codec : DmCodec) (now : Int) (req : FederatedDmRequest) :
    Handler StatusCode := do
  ensureUserStub req.sender req.createdAt
  let row ← .ofExcept (req.row E codec)
  execute (insertDmMessage row)
  let senderName ← fetch (·.displayNameOf req.sender)
  .exec (·.announce req.messageId ⟨req.conversationId, req.sender, senderName,
    wsContent req.encryptedEnvelope.isSome req.content, max req.createdAt now⟩)
  pure .ok

/-- `receive_federated_dm`. The caller is authenticated, and that is all that is
asked of it. -/
def receiveFederatedDm (E : Ed25519) (codec : DmCodec) (now : Int) (req : FederatedDmRequest) :
    Handler StatusCode := do
  let present ← fetch (·.dmMessages.has req.messageId)
  if present then pure .ok
  else do
    let blocked ← isBlockedBy req.sender req.members
    if blocked then pure .ok
    else do
      let convExists ← fetch (·.conversations.has req.conversationId)
      .when (convExists = false) (adoptConversation req)
      storeReceived E codec now req

/-! ## Reading -/

/-- `parse_dm_attachments`. -/
def parseDmAttachments (codec : DmCodec) (text : Option String) : List Attachment :=
  ((text.filter (· ≠ "")).bind fun text => (codec.readAttachments text).toOption).getD []

/-- The envelope of a row that is marked encrypted. -/
def DmMessageRow.envelope (row : DmMessageRow) (codec : DmCodec) : Option EncryptedDmEnvelope :=
  if row.isEncrypted then row.ciphertextJson.bind fun text => (codec.readEnvelope text).toOption
  else none

/-- A message as it is listed. -/
def DmMessageRow.response (row : DmMessageRow) (codec : DmCodec) (db : Db) : DmMessageResponse where
  id := row.id
  conversationId := row.conversationId
  sender := row.sender
  senderName := db.displayNameOf row.sender
  content := row.content
  createdAt := row.createdAt
  attachments := parseDmAttachments codec row.attachments
  deliveryFailed := db.dmOutbox.rows.any fun o => o.messageId = row.id ∧ o.bouncedAt.isSome
  isEncrypted := row.isEncrypted
  encryptedEnvelope := row.envelope codec

/-- `list_dm_messages`. -/
def listDmMessages (codec : DmCodec) (user conversationId : String) :
    Handler (List DmMessageResponse) := do
  let isMember ← fetch (·.conversationMembers.has (conversationId, user))
  .ensure (isMember = true) ⟨.forbidden, "Not a member of this conversation"⟩
  fetch fun db =>
    ((db.dmMessages.rows.filter (·.conversationId = conversationId)).insertionSort
      (fun a b => a.createdAt ≤ b.createdAt)).map fun row => row.response codec db

end Voxply.Hub
