/-
# What a bot is shown

A bot without the capability to read messages is shown the first hundred
characters of a text and no attachments, and a bot with a channel scope hears of
no other channel.  Publishing and replaying keep to both.  But the connection of a
bot is a connection like any other: it subscribes to the channels, and what is
broadcast there reaches it as it is.

What looks alike to the bot is given by a function that leaves out what the bot is
not to see.  Two runs that look alike in this sense are led in step; what the
client receives is the same in both as long as no broadcast that reaches it shows
more than it may see.
-/

import Voxply.Hub.Resume
import Voxply.Hub.Sockets
import Voxply.Math.Related

namespace Voxply.Hub

open Voxply.Math

/-! ## What a bot may see -/

/-- A message, cut down to what a bot may see. -/
def MessageResponse.shown (m : MessageResponse) : MessageResponse :=
  { m with
    content := contentPreview m.content
    attachments := []
    replyTo := m.replyTo.map fun reply =>
      { reply with contentPreview := contentPreview reply.contentPreview } }

def ChatEvent.shown : ChatEvent → ChatEvent
  | .new channelId message => .new channelId message.shown
  | .edited channelId message => .edited channelId message.shown
  | event => event

def WsServerMessage.shown : WsServerMessage → WsServerMessage
  | .chatMessage channelId message => .chatMessage channelId message.shown
  | .messageEdited channelId message => .messageEdited channelId message.shown
  | message => message

/-- The payload of an event, cut down. -/
def shownPayload (eventType : String) (payload : Payload) : Payload :=
  if isMessageEvent eventType then payload.redact else payload

def HubAuditLogRow.shown (row : HubAuditLogRow) : HubAuditLogRow :=
  { row with payloadJson := shownPayload row.eventType row.payloadJson }

def HubEvent.shown (event : HubEvent) : HubEvent :=
  { event with payload := shownPayload event.eventType event.payload }

def PublishRequest.shown (request : PublishRequest) : PublishRequest :=
  { request with event := request.event.shown }

/-- The event that `send_message` publishes. The attachments are given by their
rendering. -/
def messageCreated (render : List Attachment → String) (m : MessageResponse) : HubEvent where
  eventType := "message.created"
  actorPubkey := some m.sender
  targetPubkey := none
  channelId := some m.channelId
  payload := .object [("message_id", .string m.id), ("content", .string m.content),
    ("sender", .string m.sender), ("sender_name", m.senderName.elim (.other "null") .string),
    ("created_at", .other (toString m.createdAt)), ("attachments", .other (render m.attachments))]

/-- Messages that look alike are published as events that look alike. -/
theorem messageCreated_shown (render : List Attachment → String) {m m' : MessageResponse}
    (h : m.shown = m'.shown) :
    (messageCreated render m).shown = (messageCreated render m').shown := by
  have hparts := congrArg (fun m : MessageResponse =>
    (m.id, m.channelId, m.sender, m.senderName, m.createdAt, m.content)) h
  simp only [MessageResponse.shown, Prod.mk.injEq] at hparts
  rcases hparts with ⟨hid, hchannel, hsender, hname, hcreated, hcontent⟩
  simp [HubEvent.shown, messageCreated, shownPayload, isMessageEvent, Payload.redact, hid, hchannel,
    hsender, hname, hcreated, hcontent, List.lookup_cons, JsonValue.asStr]

/-- The message shows no more than a bot may see. -/
def MessageResponse.Brief (m : MessageResponse) : Prop :=
  m.content.toList.length ≤ 100 ∧ m.attachments = [] ∧
    ∀ reply ∈ m.replyTo, reply.contentPreview.toList.length ≤ 100

instance decidableBriefMessage (m : MessageResponse) : Decidable m.Brief :=
  inferInstanceAs (Decidable (_ ∧ _ ∧ ∀ reply ∈ _, _))

def WsServerMessage.Brief : WsServerMessage → Prop
  | .chatMessage _ message => message.Brief
  | .messageEdited _ message => message.Brief
  | _ => True

instance decidableBriefFrame : ∀ message : WsServerMessage, Decidable message.Brief
  | .chatMessage _ message => decidableBriefMessage message
  | .messageEdited _ message => decidableBriefMessage message
  | .messageDeleted _ _ | .reactionsUpdated _ _ _ | .typing _ _ _ _
  | .screenShareStarted _ _ _ _ _ _ | .screenShareChunkOut _ _ _ _ _ | .screenShareStopped _ _ _
  | .screenShareOfferIn _ _ _ _ _ | .screenShareAnswerIn _ _ _ _ _ | .screenShareIceIn _ _ _ _ _
  | .screenShareViewerJoined _ _ _ | .screenShareViewerLeft _ _ _ | .forumEvent _ _
  | .gameSessionCreated _ _ _ _ | .gameSessionJoined _ _ | .gameSessionLeft _ _
  | .gameStateUpdated _ _ | .gameSessionEnded _ => .isTrue trivial

theorem contentPreview_of_le {text : String} (h : text.toList.length ≤ 100) :
    contentPreview text = text := by
  rw [contentPreview, List.take_of_length_le h, String.ofList_toList]

theorem MessageResponse.Brief.shown_eq {m : MessageResponse} (h : m.Brief) : m.shown = m := by
  rcases m with ⟨id, channelId, sender, senderName, content, createdAt, editedAt, attachments,
    reactions, replyTo, visibleToPubkey⟩
  rcases h with ⟨hcontent, hattachments, hreply⟩
  dsimp only at hcontent hattachments hreply
  subst hattachments
  have hreply' : (replyTo.map fun reply : ReplyContext =>
      { reply with contentPreview := contentPreview reply.contentPreview }) = replyTo := by
    cases replyTo with
    | none => rfl
    | some reply => simp [contentPreview_of_le (hreply reply rfl)]
  simp only [MessageResponse.shown, contentPreview_of_le hcontent, hreply']

theorem WsServerMessage.Brief.shown_eq {message : WsServerMessage} (h : message.Brief) :
    message.shown = message := by
  cases message with
  | chatMessage channelId m =>
      exact congrArg (chatMessage channelId) (MessageResponse.Brief.shown_eq h)
  | messageEdited channelId m =>
      exact congrArg (messageEdited channelId) (MessageResponse.Brief.shown_eq h)
  | _ => rfl

/-! ## The hub around a bot -/

/-- The connection of a bot, with the tasks that publish and all connections. -/
structure BotHub where
  bot : BotSocket
  sockets : Sockets := {}

def BotHub.opened (s : AppState) : BotHub where
  bot := .opened s

def BotHub.db (s : BotHub) : Db :=
  s.bot.app.db

inductive BotHubMove where
  | bot (move : ResumeMove)
  | socket (move : SocketMove)
  deriving DecidableEq

/-- The connection whose task makes the move. -/
def SocketMove.conn? : SocketMove → Option ℕ
  | .connect conn _ _ => some conn
  | .autoSubscribe conn => some conn
  | .pushShares conn => some conn
  | .subscribe conn _ => some conn
  | .unsubscribe conn _ => some conn
  | .receive conn => some conn
  | .receiveChunk conn => some conn
  | .disconnect conn => some conn
  | _ => none

/-- What the client of a bot is sent: about events, or from a channel. -/
inductive BotClientFrame where
  | event (frame : ResumeFrame)
  | chat (channelId : String) (frame : SocketFrame)
  deriving DecidableEq

section Step

variable (readCaps : String → Option (List String)) (bot : String) (conn : ℕ)

/-- The task of the bot's connection is in the middle of a `Resume`. -/
def BotHub.Busy (s : BotHub) (move : SocketMove) : Prop :=
  move.conn? = some conn ∧ s.bot.task ≠ .selecting

instance decidableBusy (s : BotHub) (move : SocketMove) : Decidable (s.Busy conn move) :=
  inferInstanceAs (Decidable (_ ∧ _))

def BotHubMove.step : BotHubMove → BotHub → BotHub
  | .bot move, s => { s with bot := move.step readCaps bot conn s.bot }
  | .socket move, s =>
      if s.Busy conn move then s else { s with sockets := s.sockets.move s.db move }

/-- What a move sends to the client of the bot. -/
def BotHubMove.frames : BotHubMove → BotHub → List BotClientFrame
  | .bot move, s =>
      ((move.step readCaps bot conn s.bot).received.drop s.bot.received.length).map .event
  | .socket move, s =>
      if move.conn? = some conn ∧ s.bot.task = .selecting then
        ((Sockets.frames move s.sockets).filter (·.publicKey = bot)).map fun receipt =>
          .chat receipt.channelId receipt.frame
      else []

end Step

/-! ## The property -/

/-- A move, cut down: only what is published may differ. -/
def ResumeMove.shown : ResumeMove → ResumeMove
  | .publish (.start request) => .publish (.start request.shown)
  | move => move

/-- A move, cut down: only what is broadcast may differ. -/
def SocketMove.shown : SocketMove → SocketMove
  | .broadcast event message => .broadcast event.shown message.shown
  | move => move

def BotHubMove.shown : BotHubMove → BotHubMove
  | .bot move => .bot move.shown
  | .socket move => .socket move.shown

/-- A statement that publishes puts the frame into the queue of the connection. -/
def Pushes (conn : ℕ) (frame : HubEventFrame) (e : Event PublishRequest AppState) : Prop :=
  e.after.botQueues conn = e.before.botQueues conn ++ [frame]

/-- The frame is about a channel in the scope. A replayed frame names the channel;
any other was pushed, and whatever pushed it was about a channel in the scope. -/
structure HubEventFrame.InScope (db : Db) (bot : String) (conn : ℕ)
    (history : List (Event PublishRequest AppState)) (frame : HubEventFrame) : Prop where
  replayed : ∀ fields, frame.replayed = some fields → db.inScope bot fields.channelId = true
  pushed : frame.replayed = none → (∃ e ∈ history, Pushes conn frame e) ∧
    ∀ e ∈ history, Pushes conn frame e → db.inScope bot e.request.event.channelId = true

def BotClientFrame.InScope (bot : String) (conn : ℕ) (s : BotHub) : BotClientFrame → Prop
  | .chat channelId _ => s.db.inScope bot (some channelId) = true
  | .event (.hubEvent frame) => frame.InScope s.db bot conn s.bot.server.history
  | .event _ => True

/-- What holds of two runs that differ only in what a bot may not see. -/
structure BotScoping (readCaps : String → Option (List String)) (bot : String) (conn : ℕ)
    (first second : BotHub) (moves moves' : List BotHubMove) : Prop where
  /-- The client is sent the same frames. -/
  content : canReadMessageContent ∉ first.db.capabilities readCaps bot →
    moves.map BotHubMove.shown = moves'.map BotHubMove.shown →
    logAll (BotHubMove.step readCaps bot conn) (BotHubMove.frames readCaps bot conn) moves first =
      logAll (BotHubMove.step readCaps bot conn) (BotHubMove.frames readCaps bot conn) moves' second
  /-- No frame is about a channel out of the scope. -/
  scope : Along (BotHubMove.step readCaps bot conn)
    (fun move s => ∀ frame ∈ move.frames readCaps bot conn s,
      frame.InScope bot conn (move.step readCaps bot conn s)) moves first

/-- The bot may be sent the message. -/
def Db.MayShow (readCaps : String → Option (List String)) (bot : String) (db : Db)
    (channelId : String) (message : WsServerMessage) : Prop :=
  db.inScope bot (some channelId) = true ∧
    (canReadMessageContent ∈ db.capabilities readCaps bot ∨ message.Brief)

instance decidableMayShow (readCaps : String → Option (List String)) (bot : String) (db : Db)
    (channelId : String) (message : WsServerMessage) :
    Decidable (db.MayShow readCaps bot channelId message) :=
  inferInstanceAs (Decidable (_ ∧ _))

/-- What comes next on a connection of the bot may be sent to it: the next message
in a channel it has subscribed to, the next piece of a screen share, or the screen
shares that are announced. -/
def SocketMove.Harmless (readCaps : String → Option (List String)) (bot : String) (db : Db)
    (s : Sockets) : SocketMove → Prop
  | .pushShares conn => ∀ c ∈ s.at? conn .subscribed, c.publicKey = bot →
      ∀ stream ∈ s.screenShares, stream.channelId ∈ c.subscribed →
        stream.startedAt < c.chatRxSince → db.inScope bot (some stream.channelId) = true
  | .subscribe conn channelId => ∀ c ∈ s.at? conn .running, c.publicKey = bot →
      channelId ∉ c.subscribed → ∀ stream ∈ s.screenShares, stream.channelId = channelId →
        db.inScope bot (some channelId) = true
  | .receive conn => ∀ c ∈ s.at? conn .running, c.publicKey = bot →
      ∀ entry ∈ c.chatRx.head?, c.Delivers entry.item.1 →
        db.MayShow readCaps bot entry.item.1.channelId entry.item.2
  | .receiveChunk conn => ∀ c ∈ s.at? conn .running, c.publicKey = bot →
      ∀ entry ∈ c.screenShareRx.head?, c.DeliversChunk entry.item →
        db.inScope bot (some entry.item.channelId) = true
  | _ => True

instance decidableHarmless (readCaps : String → Option (List String)) (bot : String) (db : Db)
    (s : Sockets) : ∀ move : SocketMove, Decidable (move.Harmless readCaps bot db s)
  | .pushShares _ => inferInstanceAs (Decidable (∀ c ∈ _, _ → ∀ stream ∈ _, _ → _ → _))
  | .subscribe _ _ => inferInstanceAs (Decidable (∀ c ∈ _, _ → _ → ∀ stream ∈ _, _ → _))
  | .receive _ => inferInstanceAs (Decidable (∀ c ∈ _, _ → ∀ entry ∈ _, _ → _))
  | .receiveChunk _ => inferInstanceAs (Decidable (∀ c ∈ _, _ → ∀ entry ∈ _, _ → _))
  | .connect _ _ _ | .autoSubscribe _ | .unsubscribe _ _ | .broadcast _ _ | .chunk _ | .shares _
  | .disconnect _ => .isTrue trivial

/-- Events and their replay are harmless; so is what other connections do, and a
connection that is busy. -/
def BotHubMove.Harmless (readCaps : String → Option (List String)) (bot : String) (conn : ℕ) :
    BotHubMove → BotHub → Prop
  | .bot _, _ => True
  | .socket move, s => move.conn? = some conn → s.bot.task = .selecting →
      move.Harmless readCaps bot s.db s.sockets

instance decidableHarmlessMove (readCaps : String → Option (List String)) (bot : String)
    (conn : ℕ) : ∀ (move : BotHubMove) (s : BotHub), Decidable (move.Harmless readCaps bot conn s)
  | .bot _, _ => .isTrue trivial
  | .socket _, _ => inferInstanceAs (Decidable (_ → _ → _))

/-! ## Stores that look alike -/

theorem HubAuditLogRow.id_shown (row : HubAuditLogRow) : row.shown.id = row.id := rfl

def shownLog (log : Table HubAuditLogRow HubAuditLogRow.id) :
    Table HubAuditLogRow HubAuditLogRow.id :=
  log.update (fun _ => true) HubAuditLogRow.shown HubAuditLogRow.id_shown

theorem rows_shownLog (log : Table HubAuditLogRow HubAuditLogRow.id) :
    (shownLog log).rows = log.rows.map HubAuditLogRow.shown := by
  simp [shownLog]

def MessageRow.shown (row : MessageRow) : MessageRow :=
  { row with content := contentPreview row.content, attachments := [] }

/-- The store with its log and its messages cut down. -/
def Db.shown (db : Db) : Db :=
  { db with
    hubAuditLog := shownLog db.hubAuditLog
    messages := db.messages.update (fun _ => true) MessageRow.shown fun _ => rfl }

/-- Hubs that look alike to the bot with the given connection: other bots may have
been sent other frames, but as many. -/
structure AppAlike (readCaps : String → Option (List String)) (bot : String) (conn : ℕ)
    (s s' : AppState) : Prop where
  db : s.db.shown = s'.db.shown
  sessions : s.botSessions = s'.botSessions
  lengths : ∀ other, (s.botQueues other).length = (s'.botQueues other).length
  own : s.botQueues conn = s'.botQueues conn
  lacks : canReadMessageContent ∉ s.db.capabilities readCaps bot
  owner : ∀ other, s.botSessions other = some conn → other = bot

section Alike

variable {readCaps : String → Option (List String)} {bot : String} {conn : ℕ} {s s' : AppState}

/-- What is read off the other tables is the same. -/
theorem AppAlike.read {A : Type} (h : AppAlike readCaps bot conn s s') (f : Db → A)
    (hf : ∀ db : Db, f db.shown = f db) : f s.db = f s'.db := by
  rw [← hf s.db, h.db, hf s'.db]

theorem AppAlike.refl (hlacks : canReadMessageContent ∉ s.db.capabilities readCaps bot)
    (howner : ∀ other, s.botSessions other = some conn → other = bot) :
    AppAlike readCaps bot conn s s :=
  ⟨rfl, rfl, fun _ => rfl, rfl, hlacks, howner⟩

/-- Another store that looks alike. -/
theorem AppAlike.withDb (h : AppAlike readCaps bot conn s s') {db db' : Db}
    (hdb : db.shown = db'.shown) (hprofiles : db.botProfiles = s.db.botProfiles) :
    AppAlike readCaps bot conn (s.withDb db) (s'.withDb db') := by
  refine ⟨hdb, h.sessions, h.lengths, h.own, ?_, h.owner⟩
  have hlacks := h.lacks
  rw [Db.capabilities] at hlacks ⊢
  rw [withDb_db, hprofiles]
  exact hlacks

/-- What the bot is shown of a payload depends on what looks alike. -/
theorem payloadFor_shown {db : Db} (hlacks : canReadMessageContent ∉ db.capabilities readCaps bot)
    (eventType : String) (payload : Payload) :
    db.payloadFor readCaps bot eventType payload = shownPayload eventType payload := by
  unfold Db.payloadFor shownPayload
  by_cases hmessage : isMessageEvent eventType = true <;> simp [hmessage, hlacks]

theorem AppAlike.lacks' (h : AppAlike readCaps bot conn s s') :
    canReadMessageContent ∉ s'.db.capabilities readCaps bot := by
  rw [← h.read (·.capabilities readCaps bot) fun _ => rfl]
  exact h.lacks

/-! ## Publishing -/

/-- Storing commutes with cutting down. -/
theorem insertAudit_shown (row : HubAuditLogRow) (db : Db) :
    insertAudit row.shown db.shown = (insertAudit row db).map Db.shown := by
  unfold insertAudit
  cases hinsert : db.hubAuditLog.insert? row with
  | none =>
      rcases Table.insert?_eq_none_iff.mp hinsert with ⟨old, hold, hkey⟩
      have hshown : db.shown.hubAuditLog.insert? row.shown = none :=
        Table.insert?_eq_none_iff.mpr
          ⟨old.shown, by rw [Db.shown, rows_shownLog]; exact List.mem_map_of_mem hold, hkey⟩
      rw [hshown]
      rfl
  | some hubAuditLog =>
      rcases Table.insert?_eq_some_iff.mp hinsert with ⟨hfree, hrows⟩
      have hshown : db.shown.hubAuditLog.insert? row.shown = some (shownLog hubAuditLog) := by
        apply Table.insert?_eq_some_iff.mpr
        rw [Db.shown, rows_shownLog, rows_shownLog, hrows, List.map_append]
        refine ⟨fun old hold => ?_, rfl⟩
        rcases List.mem_map.mp hold with ⟨row', hrow', rfl⟩
        exact hfree row' hrow'
      rw [hshown]
      rfl

theorem insertAudit_profiles {row : HubAuditLogRow} {db db' : Db}
    (h : insertAudit row db = .ok db') : db'.botProfiles = db.botProfiles := by
  unfold insertAudit at h
  cases hinsert : db.hubAuditLog.insert? row with
  | none => simp [hinsert] at h
  | some hubAuditLog =>
      rw [hinsert] at h
      cases h
      rfl

theorem storeEvent_related {row row' : HubAuditLogRow} (hrow : row.shown = row'.shown) :
    Prog.Related (AppAlike readCaps bot conn) (· = ·) (storeEvent row) (storeEvent row') := by
  apply Prog.Related.recover
  · apply Prog.Related.bind
    · apply Prog.related_attempt
      intro s s' h
      have hboth : (insertAudit row s.db).map Db.shown = (insertAudit row' s'.db).map Db.shown := by
        rw [← insertAudit_shown, ← insertAudit_shown, hrow, h.db]
      cases hok : insertAudit row s.db with
      | error e =>
          cases hok' : insertAudit row' s'.db with
          | error e' =>
              rw [hok, hok'] at hboth
              cases hboth
              exact .inr ⟨dbError e, by simp, by simp⟩
          | ok db' =>
              rw [hok, hok'] at hboth
              cases hboth
      | ok db =>
          cases hok' : insertAudit row' s'.db with
          | error e' =>
              rw [hok, hok'] at hboth
              cases hboth
          | ok db' =>
              rw [hok, hok'] at hboth
              injection hboth with hdb
              refine .inl ⟨s.withDb db, s'.withDb db', by simp, by simp, ?_⟩
              exact h.withDb hdb (insertAudit_profiles hok)
    · exact fun _ _ _ => rfl
  · exact fun _ => rfl

/-- A frame in a queue: the bot's own queue gets the same frame in both hubs. -/
theorem AppAlike.trySend (h : AppAlike readCaps bot conn s s') {other : ℕ}
    {frame frame' : HubEventFrame} (hframe : other = conn → frame = frame') :
    AppAlike readCaps bot conn (s.trySend other frame) (s'.trySend other frame') := by
  unfold AppState.trySend
  rw [h.lengths other]
  split_ifs
  · refine ⟨h.db, h.sessions, fun k => ?_, ?_, h.lacks, h.owner⟩
    · show (if k = other then _ else _ : List HubEventFrame).length =
        (if k = other then _ else _ : List HubEventFrame).length
      split_ifs
      · simp [h.lengths other]
      · exact h.lengths k
    · show (if conn = other then _ else _ : List HubEventFrame) = if conn = other then _ else _
      split_ifs with hsame
      · subst hsame
        rw [h.own, hframe rfl]
      · exact h.own
  · exact h

theorem pushEvents_related {env : PublishEnv} {event event' : HubEvent} {seq : Int}
    (hevent : event.shown = event'.shown) :
    Prog.Related (AppAlike readCaps bot conn) (fun _ _ => True)
      (pushEvents readCaps env event seq) (pushEvents readCaps env event' seq) := by
  have hparts := congrArg (fun event : HubEvent =>
    (event.eventType, event.channelId, event.payload)) hevent
  simp only [HubEvent.shown, Prod.mk.injEq] at hparts
  rcases hparts with ⟨htype, hchannel, hpayload⟩
  unfold pushEvents
  apply @Prog.Related.bind _ _ _ _ _ _ _ (· = ·)
  · exact Prog.related_query fun s s' h => h.read Db.hubUrl fun _ => rfl
  rintro hubUrl _ rfl
  apply @Prog.Related.bind _ _ _ _ _ _ _ (· = ·)
  · apply Prog.related_query
    intro s s' h
    rw [htype, hchannel]
    exact h.read (·.subscribers event'.eventType event'.channelId) fun _ => rfl
  rintro subs _ rfl
  apply Prog.related_when
  intro _
  apply @Prog.Related.bind _ _ _ _ _ _ _ (fun sessions sessions' =>
    sessions = sessions' ∧ ∀ other, sessions other = some conn → other = bot)
  · exact Prog.related_query fun s s' h => ⟨h.sessions, h.owner⟩
  rintro sessions _ ⟨rfl, howner⟩
  apply Prog.related_each
  intro other
  unfold pushEvent
  cases hsession : sessions other with
  | none => trivial
  | some k =>
      apply @Prog.Related.bind _ _ _ _ _ _ _ (· = ·)
      · apply Prog.related_query
        intro s s' h
        rw [hchannel]
        exact h.read (·.inScope other event'.channelId) fun _ => by cases event'.channelId <;> rfl
      rintro inScope _ rfl
      apply Prog.related_when
      intro _
      -- Other bots may be shown more; the bot itself is not.
      apply @Prog.Related.bind _ _ _ _ _ _ _ (fun payload payload' =>
        other = bot → payload = payload')
      · apply Prog.related_query
        intro s s' h hself
        subst hself
        dsimp only
        rw [payloadFor_shown h.lacks, payloadFor_shown h.lacks', hpayload]
      intro payload payload' hsame
      apply Prog.related_exec
      intro s s' h
      apply h.trySend
      intro hk
      rw [hsame (howner other (hk ▸ hsession)), htype]

theorem PublishRequest.handler_related {request request' : PublishRequest}
    (hrequest : request.shown = request'.shown) :
    Prog.Related (AppAlike readCaps bot conn) (fun _ _ => True) (request.handler readCaps)
      (request'.handler readCaps) := by
  have hparts := congrArg (fun request : PublishRequest => (request.env, request.event)) hrequest
  simp only [PublishRequest.shown, Prod.mk.injEq] at hparts
  rcases hparts with ⟨henv, hevent⟩
  unfold PublishRequest.handler publishHubEvent
  apply @Prog.Related.bind _ _ _ _ _ _ _ (· = ·)
  · apply @Prog.Related.bind _ _ _ _ _ _ _ (fun _ _ => True)
    · exact Prog.related_exec fun s s' h => h.withDb (by
        have hbump : ∀ db : Db, (bumpSeq db).shown = bumpSeq db.shown := fun _ => rfl
        rw [hbump, hbump, h.db]) rfl
    · exact fun _ _ _ => Prog.related_query fun s s' h => h.read Db.auditSeq fun _ => rfl
  rintro seq _ rfl
  cases seq with
  | none => trivial
  | some seq =>
      apply @Prog.Related.bind _ _ _ _ _ _ _ (· = ·)
      · apply storeEvent_related
        show HubAuditLogRow.shown _ = HubAuditLogRow.shown _
        have hparts := congrArg (fun event : HubEvent => (event.eventType, event.actorPubkey,
          event.targetPubkey, event.channelId, event.payload)) hevent
        simp only [HubEvent.shown, Prod.mk.injEq] at hparts
        rcases hparts with ⟨htype, hactor, htarget, hchannel, hpayload⟩
        simp only [HubEvent.row, HubAuditLogRow.shown, henv, htype, hactor, htarget, hchannel]
        rw [htype] at hpayload
        rw [hpayload]
      rintro stored _ rfl
      apply Prog.related_when
      intro _
      rw [henv]
      exact pushEvents_related hevent

/-! ## Replaying -/

theorem insertionSort_shown (rows : List HubAuditLogRow) :
    (rows.map HubAuditLogRow.shown).insertionSort (fun a b => a.seq ≤ b.seq) =
      (rows.insertionSort fun a b => a.seq ≤ b.seq).map HubAuditLogRow.shown :=
  (List.map_insertionSort _ _ HubAuditLogRow.shown rows fun _ _ _ _ => Iff.rfl).symm

theorem auditRowsSince_shown (db : Db) (sinceSeq windowStart : Int) :
    db.shown.auditRowsSince sinceSeq windowStart =
      (db.auditRowsSince sinceSeq windowStart).map HubAuditLogRow.shown := by
  unfold Db.auditRowsSince
  rw [Db.shown, rows_shownLog, List.filter_map, insertionSort_shown]
  rfl

theorem earliestInWindow_shown (db : Db) (windowStart : Int) :
    db.shown.earliestInWindow windowStart = db.earliestInWindow windowStart := by
  unfold Db.earliestInWindow
  rw [Db.shown, rows_shownLog, List.filter_map, insertionSort_shown, List.head?_map,
    Option.map_map]
  rfl

/-- The task of a connection with the rows it holds cut down. -/
def ResumeTask.shown : ResumeTask → ResumeTask
  | .selected sinceSeq liveSeq subEvents rows =>
      .selected sinceSeq liveSeq subEvents (rows.map HubAuditLogRow.shown)
  | .replaying loop => .replaying { loop with rows := loop.rows.map HubAuditLogRow.shown }
  | .sending loop frame => .sending { loop with rows := loop.rows.map HubAuditLogRow.shown } frame
  | task => task

/-- The bot's connection in two hubs that look alike. -/
structure BotAlike (readCaps : String → Option (List String)) (bot : String) (conn : ℕ)
    (s s' : BotSocket) : Prop where
  server : s.server.Alike (AppAlike readCaps bot conn) (fun _ _ => True) s'.server
  task : s.task.shown = s'.task.shown
  isReplaying : s.isReplaying = s'.isReplaying
  replayBuffer : s.replayBuffer = s'.replayBuffer
  received : s.received = s'.received

/-- Tasks that look alike are the same, or differ in the rows they hold. -/
inductive TaskAlike : ResumeTask → ResumeTask → Prop
  | same (task : ResumeTask) : TaskAlike task task
  | selected (sinceSeq liveSeq : Int) (subEvents : List String) (rows rows' : List HubAuditLogRow)
      (h : rows.map HubAuditLogRow.shown = rows'.map HubAuditLogRow.shown) :
      TaskAlike (.selected sinceSeq liveSeq subEvents rows)
        (.selected sinceSeq liveSeq subEvents rows')
  | replaying (loop : Replaying) (rows' : List HubAuditLogRow)
      (h : loop.rows.map HubAuditLogRow.shown = rows'.map HubAuditLogRow.shown) :
      TaskAlike (.replaying loop) (.replaying { loop with rows := rows' })
  | sending (loop : Replaying) (rows' : List HubAuditLogRow) (frame : HubEventFrame)
      (h : loop.rows.map HubAuditLogRow.shown = rows'.map HubAuditLogRow.shown) :
      TaskAlike (.sending loop frame) (.sending { loop with rows := rows' } frame)

theorem taskAlike_of_shown {task task' : ResumeTask} (h : task.shown = task'.shown) :
    TaskAlike task task' := by
  cases task with
  | selected sinceSeq liveSeq subEvents rows =>
      cases task' <;> simp only [ResumeTask.shown, reduceCtorEq] at h
      injection h with hsince hlive hsubs hrows
      subst hsince hlive hsubs
      exact .selected _ _ _ _ _ hrows
  | replaying loop =>
      cases task' <;> simp only [ResumeTask.shown, reduceCtorEq] at h
      next loop' =>
        rcases loop with ⟨_, _, _, _, rows, _⟩
        rcases loop' with ⟨_, _, _, _, rows', _⟩
        injection h with h
        injection h with h1 h2 h3 h4 h5 h6
        dsimp only at h1 h2 h3 h4 h5 h6
        subst h1 h2 h3 h4 h6
        exact .replaying ⟨_, _, _, _, rows, _⟩ rows' h5
  | sending loop frame =>
      cases task' <;> simp only [ResumeTask.shown, reduceCtorEq] at h
      next loop' frame' =>
        rcases loop with ⟨_, _, _, _, rows, _⟩
        rcases loop' with ⟨_, _, _, _, rows', _⟩
        injection h with h hframe
        injection h with h1 h2 h3 h4 h5 h6
        dsimp only at h1 h2 h3 h4 h5 h6
        subst h1 h2 h3 h4 h6 hframe
        exact .sending ⟨_, _, _, _, rows, _⟩ rows' _ h5
  | _ =>
      cases task' <;> simp only [ResumeTask.shown, reduceCtorEq] at h
      all_goals
        cases h
        exact .same _

variable {first second : BotSocket}

theorem BotAlike.app (h : BotAlike readCaps bot conn first second) :
    AppAlike readCaps bot conn first.app second.app :=
  h.server.state

/-- The tasks go on to tasks that look alike. -/
theorem BotAlike.withTask (h : BotAlike readCaps bot conn first second) {task task' : ResumeTask}
    (htask : task.shown = task'.shown) (isReplaying : Bool) :
    BotAlike readCaps bot conn { first with task := task, isReplaying := isReplaying }
      { second with task := task', isReplaying := isReplaying } :=
  ⟨h.server, htask, rfl, h.replayBuffer, h.received⟩

/-- Both go on without touching `is_replaying`. -/
theorem BotAlike.goOn (h : BotAlike readCaps bot conn first second) {task task' : ResumeTask}
    (htask : task.shown = task'.shown) :
    BotAlike readCaps bot conn { first with task := task } { second with task := task' } :=
  ⟨h.server, htask, h.isReplaying, h.replayBuffer, h.received⟩

/-- What is replayed of a row depends on what the bot may see of it. -/
theorem replayFrame_shown {db db' : Db}
    (hlacks : canReadMessageContent ∉ db.capabilities readCaps bot)
    (hlacks' : canReadMessageContent ∉ db'.capabilities readCaps bot)
    (hscope : ∀ channelId, db.inScope bot channelId = db'.inScope bot channelId)
    (subEvents : List String) (hubUrl : String) {row row' : HubAuditLogRow}
    (hrow : row.shown = row'.shown) :
    db.replayFrame readCaps bot subEvents hubUrl row =
      db'.replayFrame readCaps bot subEvents hubUrl row' := by
  have hparts := congrArg (fun row : HubAuditLogRow => (row.seq, row.eventType, row.atTime,
    row.actorPubkey, row.targetPubkey, row.channelId, row.payloadJson)) hrow
  simp only [HubAuditLogRow.shown, Prod.mk.injEq] at hparts
  rcases hparts with ⟨hseq, htype, htime, hactor, htarget, hchannel, hpayload⟩
  rw [Db.replayFrame, Db.replayFrame, payloadFor_shown hlacks, payloadFor_shown hlacks',
    hscope, hseq, htime, hactor, htarget, hchannel, hpayload, htype]

theorem AppAlike.withQueue (h : AppAlike readCaps bot conn s s') (queue : List HubEventFrame) :
    AppAlike readCaps bot conn (s.withQueue conn queue) (s'.withQueue conn queue) := by
  refine ⟨h.db, h.sessions, fun other => ?_, ?_, h.lacks, h.owner⟩
  · show (if other = conn then queue else s.botQueues other).length =
      (if other = conn then queue else s'.botQueues other).length
    split_ifs
    · rfl
    · exact h.lengths other
  · rw [withQueue_self, withQueue_self]

theorem BotAlike.stepTask (h : BotAlike readCaps bot conn first second) (now : Int) :
    BotAlike readCaps bot conn (first.stepTask readCaps bot conn now)
      (second.stepTask readCaps bot conn now) := by
  have happ := h.app
  have hscope : ∀ channelId, first.app.db.inScope bot channelId =
      second.app.db.inScope bot channelId := by
    intro channelId
    exact happ.read (·.inScope bot channelId) fun _ => by cases channelId <;> rfl
  unfold BotSocket.stepTask
  have htask := taskAlike_of_shown h.task
  generalize hat : first.task = task at htask
  generalize hat' : second.task = task' at htask
  cases htask with
  | selected sinceSeq liveSeq subEvents rows rows' hrows =>
      dsimp only
      rw [happ.read Db.hubUrl fun _ => rfl]
      apply h.goOn
      simp only [ResumeTask.shown, hrows]
  | replaying loop rows' hrows =>
      dsimp only
      cases hloop : loop.rows with
      | nil =>
          rw [hloop] at hrows
          have hnil : rows' = [] := by simpa using hrows.symm
          subst hnil
          exact h.withTask rfl false
      | cons row rows =>
          rw [hloop] at hrows
          cases rows' with
          | nil => simp at hrows
          | cons row' rows' =>
              rw [List.map_cons, List.map_cons, List.cons.injEq] at hrows
              have hframe := replayFrame_shown happ.lacks happ.lacks' hscope loop.subEvents
                loop.hubUrl hrows.1
              dsimp only
              rw [hframe]
              cases second.app.db.replayFrame readCaps bot loop.subEvents loop.hubUrl row' with
              | none =>
                  apply h.goOn
                  simp only [ResumeTask.shown, hrows.2]
              | some frame =>
                  apply h.goOn
                  simp only [ResumeTask.shown, hrows.2]
  | sending loop rows' frame hrows =>
      dsimp only
      rw [happ.own]
      split_ifs
      · refine ⟨h.server.withState (happ.withQueue _), ?_, h.isReplaying,
          h.replayBuffer, h.received⟩
        simp only [ResumeTask.shown, hrows]
      · exact h
  | same task =>
      cases task with
      | selecting => exact h
      | resumed sinceSeq =>
          dsimp only
          rw [happ.read Db.auditSeq fun _ => rfl]
          exact h.goOn rfl
      | numbered sinceSeq liveSeq =>
          dsimp only
          rw [happ.read (·.earliestInWindow (now - replayWindow))
            fun db => earliestInWindow_shown db _]
          cases second.app.db.earliestInWindow (now - replayWindow) with
          | none => exact h.withTask rfl false
          | some earliest =>
              dsimp only
              split_ifs
              · exact h.withTask rfl false
              · exact h.goOn rfl
      | available sinceSeq liveSeq windowStart =>
          dsimp only
          rw [happ.read (·.subscribedEvents bot) fun _ => rfl]
          split_ifs
          · exact h.withTask rfl false
          · exact h.goOn rfl
      | subscribed sinceSeq liveSeq windowStart subEvents =>
          apply h.goOn
          simp only [ResumeTask.shown]
          rw [← auditRowsSince_shown, ← auditRowsSince_shown, happ.db]
      | selected sinceSeq liveSeq subEvents rows =>
          dsimp only
          rw [happ.read Db.hubUrl fun _ => rfl]
          exact h.goOn rfl
      | replaying loop =>
          dsimp only
          cases loop.rows with
          | nil => exact h.withTask rfl false
          | cons row rows =>
              dsimp only
              rw [replayFrame_shown happ.lacks happ.lacks' hscope loop.subEvents loop.hubUrl
                (rfl : row.shown = row.shown)]
              cases second.app.db.replayFrame readCaps bot loop.subEvents loop.hubUrl row with
              | none => exact h.goOn rfl
              | some frame => exact h.goOn rfl
      | sending loop frame =>
          dsimp only
          rw [happ.own]
          split_ifs
          · exact ⟨h.server.withState (happ.withQueue _), rfl, h.isReplaying, h.replayBuffer,
              h.received⟩
          · exact h
      | answering answer =>
          refine ⟨h.server, rfl, h.isReplaying, rfl, ?_⟩
          dsimp only
          rw [h.received, h.replayBuffer]

/-- A task that is not in its `select!` takes nothing out of the queue. -/
theorem stepReceive_of_busy {socket : BotSocket} (h : socket.task ≠ .selecting) :
    socket.stepReceive conn = socket := by
  unfold BotSocket.stepReceive
  split
  · next hat _ => exact absurd hat h
  · rfl

theorem BotAlike.selecting_iff (h : BotAlike readCaps bot conn first second) :
    first.task = .selecting ↔ second.task = .selecting := by
  have htask := taskAlike_of_shown h.task
  generalize first.task = task at htask
  generalize second.task = task' at htask
  cases htask <;> simp

theorem BotAlike.stepReceive (h : BotAlike readCaps bot conn first second) :
    BotAlike readCaps bot conn (first.stepReceive conn) (second.stepReceive conn) := by
  have happ := h.app
  by_cases hat : first.task = .selecting
  · unfold BotSocket.stepReceive
    rw [happ.own, hat, h.selecting_iff.mp hat]
    cases hqueue : second.app.botQueues conn with
    | nil => exact h
    | cons frame queue =>
        dsimp only [BotSocket.withApp]
        rw [h.isReplaying]
        split_ifs
        · refine ⟨h.server.withState (happ.withQueue queue), h.task, rfl, ?_, h.received⟩
          rw [h.replayBuffer]
        · refine ⟨h.server.withState (happ.withQueue queue), h.task, rfl, h.replayBuffer, ?_⟩
          rw [h.received]
  · rw [stepReceive_of_busy hat, stepReceive_of_busy fun hsecond =>
      hat (h.selecting_iff.mpr hsecond)]
    exact h

theorem BotAlike.step (h : BotAlike readCaps bot conn first second) {move move' : ResumeMove}
    (hmove : move.shown = move'.shown) :
    BotAlike readCaps bot conn (move.step readCaps bot conn first)
      (move'.step readCaps bot conn second) := by
  cases move with
  | publish move =>
      cases move with
      | start request =>
          rcases move' with (request' | job) | _ | _ | _
          case publish.start =>
            simp only [ResumeMove.shown, ResumeMove.publish.injEq, Move.start.injEq] at hmove
            exact ⟨h.server.start (PublishRequest.handler_related hmove), h.task, h.isReplaying,
              h.replayBuffer, h.received⟩
          all_goals cases hmove
      | exec job =>
          rcases move' with (request' | job) | _ | _ | _
          case publish.exec =>
            cases hmove
            have hserver := @Server.Alike.exec _ _ _ _ _ _ (PublishRequest.handler readCaps) _ _
              h.server job
            exact ⟨hserver, h.task, h.isReplaying, h.replayBuffer, h.received⟩
          all_goals cases hmove
  | resume sinceSeq =>
      rcases move' with (request' | job) | _ | _ | _
      case resume =>
        cases hmove
        have htask := taskAlike_of_shown h.task
        simp only [ResumeMove.step]
        generalize hat : first.task = task at htask
        generalize hat' : second.task = task' at htask
        cases htask with
        | same task =>
            cases task with
            | selecting => exact h.withTask rfl true
            | _ => exact h
        | _ => exact h
      all_goals cases hmove
  | task now =>
      rcases move' with (request' | job) | _ | _ | _
      case task =>
        cases hmove
        exact h.stepTask now
      all_goals cases hmove
  | receive =>
      rcases move' with (request' | job) | _ | _ | _
      case receive => exact h.stepReceive
      all_goals cases hmove

end Alike

/-! ## Connections that look alike -/

def SocketConn.shown (c : SocketConn) : SocketConn :=
  { c with chatRx := c.chatRx.map fun entry =>
      ⟨entry.sentAt, entry.item.1.shown, entry.item.2.shown⟩ }

def Sockets.shown (s : Sockets) : Sockets :=
  { s with conns := fun conn => (s.conns conn).map SocketConn.shown }

def SocketFrame.shown : SocketFrame → SocketFrame
  | .text message => .text message.shown
  | frame => frame

def Receipt.shown (receipt : Receipt) : Receipt :=
  { receipt with frame := receipt.frame.shown }

@[simp] theorem ChatEvent.channelId_shown (event : ChatEvent) :
    event.shown.channelId = event.channelId := by
  cases event <;> rfl

@[simp] theorem ChatEvent.passes_shown (publicKey : String) (event : ChatEvent) :
    event.shown.passes publicKey = event.passes publicKey := by
  cases event <;> rfl

theorem SocketConn.delivers_shown (c : SocketConn) (event : ChatEvent) :
    c.shown.Delivers event.shown ↔ c.Delivers event := by
  rw [Delivers, Delivers, ChatEvent.channelId_shown, ChatEvent.passes_shown]
  rfl

theorem map_enqueue {A B : Type} (f : A → B) (queue : List A) (entry : A) :
    (enqueue queue entry).map f = enqueue (queue.map f) (f entry) := by
  simp only [enqueue, List.map_drop, List.map_append, List.map_cons, List.map_nil, List.length_map]

theorem SocketConn.shown_broadcast (c : SocketConn) (clock : ℕ) (event : ChatEvent)
    (message : WsServerMessage) :
    SocketConn.shown { c with chatRx := enqueue c.chatRx ⟨clock, (event, message)⟩ } =
      { c.shown with
        chatRx := enqueue c.shown.chatRx ⟨clock, (event.shown, message.shown)⟩ } := by
  unfold SocketConn.shown
  dsimp only
  rw [map_enqueue]

theorem SocketConn.shown_chunks (c : SocketConn)
    (screenShareRx : List (BroadcastEntry ScreenChunkEvent)) :
    SocketConn.shown { c with screenShareRx := screenShareRx } =
      { c.shown with screenShareRx := screenShareRx } :=
  rfl

namespace Sockets

variable (db : Db) (s : Sockets) (conn : ℕ)

theorem conns_shown : s.shown.conns conn = (s.conns conn).map SocketConn.shown := rfl

/-- Changing a connection commutes with cutting down if the change does. -/
theorem modify_shown {f : SocketConn → SocketConn} (hf : ∀ c, (f c).shown = f c.shown)
    (stage : SocketStage) : (s.modify conn stage f).shown = s.shown.modify conn stage f := by
  unfold modify Sockets.shown
  congr 1
  funext other
  dsimp only
  split_ifs
  · rw [Option.map_map, Option.map_map]
    congr 1
    funext c
    show SocketConn.shown (if c.stage = stage then f c else c) =
      if c.stage = stage then f c.shown else c.shown
    split_ifs
    · exact hf c
    · rfl
  · rfl

theorem modifyAll_shown {f g : SocketConn → SocketConn} (hf : ∀ c, (f c).shown = g c.shown) :
    (s.modifyAll f).shown = s.shown.modifyAll g := by
  unfold modifyAll Sockets.shown
  congr 1
  funext other
  dsimp only
  rw [Option.map_map, Option.map_map]
  congr 1
  funext c
  exact hf c

/-- The moves of the connections commute with cutting down. -/
theorem move_shown (move : SocketMove) :
    (s.move db move).shown = s.shown.move db.shown move.shown := by
  cases move with
  | connect k publicKey instant =>
      cases hconn : s.conns k with
      | none =>
          simp only [Sockets.move, SocketMove.shown, conns_shown, hconn, Option.map_none]
          unfold Sockets.shown
          congr 1
          funext other
          dsimp only
          split_ifs
          · rfl
          · rfl
      | some c =>
          simp only [Sockets.move, SocketMove.shown, conns_shown, hconn, Option.map_some]
  | autoSubscribe k =>
      apply s.modify_shown k _ .opening
      exact fun _ => rfl
  | pushShares k =>
      apply s.modify_shown k _ .subscribed
      exact fun _ => rfl
  | subscribe k channelId =>
      apply s.modify_shown k _ .running
      exact fun _ => rfl
  | unsubscribe k channelId =>
      apply s.modify_shown k _ .running
      exact fun _ => rfl
  | broadcast event message =>
      apply s.modifyAll_shown
      exact fun c => c.shown_broadcast s.clock event message
  | chunk event =>
      apply s.modifyAll_shown
      exact fun c => c.shown_chunks (enqueue c.screenShareRx ⟨s.clock, event⟩)
  | shares streams => rfl
  | receive k =>
      apply s.modify_shown k _ .running
      intro c
      simp only [SocketConn.shown, List.map_tail]
  | receiveChunk k =>
      apply s.modify_shown k _ .running
      exact fun _ => rfl
  | disconnect k =>
      unfold Sockets.move SocketMove.shown Sockets.shown
      dsimp only
      congr 1
      funext other
      split_ifs
      · rfl
      · rfl

theorem at?_shown (stage : SocketStage) :
    s.shown.at? conn stage = (s.at? conn stage).map SocketConn.shown := by
  unfold at?
  rw [conns_shown, Option.filter_map]
  rfl

theorem announce_shown (c : SocketConn) (stream : ScreenStream) :
    (s.announce c stream).map Receipt.shown = s.shown.announce c.shown stream := by
  have hsent : stream.sent.map SocketFrame.shown = stream.sent := by
    unfold ScreenStream.sent
    cases stream.initChunk <;> rfl
  conv_rhs => rw [announce, ← hsent]
  rw [announce, List.map_map, List.map_map]
  rfl

/-- So does what they send. -/
theorem frames_shown (move : SocketMove) :
    (frames move s).map Receipt.shown = frames move.shown s.shown := by
  have hshares : ∀ c shares, (List.flatMap (s.announce c) shares).map Receipt.shown =
      shares.flatMap (s.shown.announce c.shown) := by
    intro c shares
    rw [List.map_flatMap]
    congr 1
    funext stream
    exact s.announce_shown c stream
  cases move with
  | pushShares k =>
      simp only [frames, SocketMove.shown, at?_shown]
      cases s.at? k .subscribed with
      | none => rfl
      | some c => exact hshares c _
  | subscribe k channelId =>
      simp only [frames, SocketMove.shown, at?_shown]
      cases s.at? k .running with
      | none => rfl
      | some c =>
          show (if channelId ∈ c.subscribed then [] else _ : List Receipt).map Receipt.shown =
            if channelId ∈ c.subscribed then [] else _
          split_ifs
          · rfl
          · exact hshares c _
  | receive k =>
      simp only [frames, SocketMove.shown, at?_shown]
      cases s.at? k .running with
      | none => rfl
      | some c =>
          dsimp only [Option.map_some]
          cases hqueue : c.chatRx with
          | nil =>
              have hshown : c.shown.chatRx = [] := by rw [SocketConn.shown, hqueue]; rfl
              rw [hshown]
              rfl
          | cons entry rest =>
              have hshown : c.shown.chatRx =
                  ⟨entry.sentAt, entry.item.1.shown, entry.item.2.shown⟩ ::
                    SocketConn.chatRx (SocketConn.shown { c with chatRx := rest }) := by
                rw [SocketConn.shown, hqueue]; rfl
              rw [hshown]
              dsimp only
              rw [ChatEvent.channelId_shown]
              by_cases hdelivers : c.Delivers entry.item.1
              · rw [if_pos hdelivers, if_pos ((c.delivers_shown _).mpr hdelivers)]
                rfl
              · rw [if_neg hdelivers, if_neg fun h => hdelivers ((c.delivers_shown _).mp h)]
                rfl
  | receiveChunk k =>
      simp only [frames, SocketMove.shown, at?_shown]
      cases s.at? k .running with
      | none => rfl
      | some c =>
          have hshown : c.shown.screenShareRx = c.screenShareRx := rfl
          dsimp only [Option.map_some]
          rw [hshown]
          cases c.screenShareRx with
          | nil => rfl
          | cons entry rest =>
              show (if c.DeliversChunk entry.item then _ else [] : List Receipt).map Receipt.shown =
                if c.DeliversChunk entry.item then _ else []
              split_ifs
              · rfl
              · rfl
  | _ => rfl

end Sockets

/-! ## Two runs -/

/-- Hubs that look alike to the bot. -/
structure HubAlike (readCaps : String → Option (List String)) (bot : String) (conn : ℕ)
    (s s' : BotHub) : Prop where
  bot : BotAlike readCaps bot conn s.bot s'.bot
  sockets : s.sockets.shown = s'.sockets.shown

def SocketFrame.Brief : SocketFrame → Prop
  | .text message => message.Brief
  | .binary _ => True

theorem SocketFrame.Brief.shown_eq {frame : SocketFrame} (h : frame.Brief) :
    frame.shown = frame := by
  cases frame with
  | text message => exact congrArg SocketFrame.text (WsServerMessage.Brief.shown_eq h)
  | binary data => rfl

theorem ScreenStream.brief_sent {stream : ScreenStream} {frame : SocketFrame}
    (h : frame ∈ stream.sent) : frame.Brief := by
  unfold ScreenStream.sent at h
  cases hinit : stream.initChunk with
  | none =>
      simp only [hinit, Option.elim_none, List.mem_singleton] at h
      subst h
      trivial
  | some data =>
      simp only [hinit, Option.elim_some, List.mem_cons, List.not_mem_nil, or_false] at h
      rcases h with rfl | rfl | rfl <;> trivial

theorem ScreenChunkEvent.brief_sent {event : ScreenChunkEvent} {frame : SocketFrame}
    (h : frame ∈ event.sent) : frame.Brief := by
  simp only [ScreenChunkEvent.sent, List.mem_cons, List.not_mem_nil, or_false] at h
  rcases h with rfl | rfl <;> trivial

section Runs

variable {readCaps : String → Option (List String)} {bot : String} {conn : ℕ} {s s' : BotHub}
  {move move' : BotHubMove}

/-- What a harmless move sends to the bot may be sent to it. -/
theorem SocketMove.Harmless.mem_frames {db : Db} {sockets : Sockets} {move : SocketMove}
    {receipt : Receipt} (h : move.Harmless readCaps bot db sockets)
    (hreceipt : receipt ∈ Sockets.frames move sockets) (hkey : receipt.publicKey = bot) :
    db.inScope bot (some receipt.channelId) = true ∧
      (canReadMessageContent ∈ db.capabilities readCaps bot ∨ receipt.frame.Brief) := by
  cases Sockets.sends_of_mem_frames hreceipt with
  | share hat hstream hsubscribed hsince hframe =>
      exact ⟨h _ hat hkey _ hstream hsubscribed hsince, .inr (ScreenStream.brief_sent hframe)⟩
  | subscribed hat hstream hnew hframe =>
      exact ⟨h _ hat hkey hnew _ hstream rfl, .inr (ScreenStream.brief_sent hframe)⟩
  | chat hat hqueue hdelivers => exact h _ hat hkey _ (by rw [hqueue]; rfl) hdelivers
  | chunk hat hqueue hdelivers hframe =>
      exact ⟨h _ hat hkey _ (by rw [hqueue]; rfl) hdelivers,
        .inr (ScreenChunkEvent.brief_sent hframe)⟩

theorem SocketMove.conn?_shown (move : SocketMove) : move.shown.conn? = move.conn? := by
  cases move <;> rfl

theorem HubAlike.socketMove (h : HubAlike readCaps bot conn s s') {move move' : SocketMove}
    (hmove : move.shown = move'.shown) :
    (s.sockets.move s.db move).shown = (s'.sockets.move s'.db move').shown := by
  have hdb : s.db.shown = s'.db.shown := h.bot.app.db
  rw [Sockets.move_shown, Sockets.move_shown, h.sockets, hdb, hmove]

theorem HubAlike.step (h : HubAlike readCaps bot conn s s') (hmove : move.shown = move'.shown) :
    HubAlike readCaps bot conn (move.step readCaps bot conn s)
    (move'.step readCaps bot conn s') := by
  cases move with
  | bot move =>
      cases move' with
      | bot move' => exact ⟨h.bot.step (by simpa [BotHubMove.shown] using hmove), h.sockets⟩
      | socket move' => cases hmove
  | socket move =>
      cases move' with
      | bot move' => cases hmove
      | socket move' =>
          have hmove : move.shown = move'.shown := by simpa [BotHubMove.shown] using hmove
          have hconn : move.conn? = move'.conn? := by
            rw [← SocketMove.conn?_shown move, hmove, SocketMove.conn?_shown]
          have hbusy : s.Busy conn move ↔ s'.Busy conn move' := by
            rw [BotHub.Busy, BotHub.Busy, hconn, Ne, Ne, h.bot.selecting_iff]
          simp only [BotHubMove.step]
          by_cases hwaits : s.Busy conn move
          · rw [if_pos hwaits, if_pos (hbusy.mp hwaits)]
            exact h
          · rw [if_neg hwaits, if_neg fun hwaits' => hwaits (hbusy.mpr hwaits')]
            exact ⟨h.bot, h.socketMove hmove⟩

/-- What the bot is sent of the frames of a move. -/
theorem filter_frames_shown {db : Db} {sockets : Sockets} {move : SocketMove}
    (hlacks : canReadMessageContent ∉ db.capabilities readCaps bot)
    (h : move.Harmless readCaps bot db sockets) :
    (Sockets.frames move sockets).filter (·.publicKey = bot) =
      (Sockets.frames move.shown sockets.shown).filter (·.publicKey = bot) := by
  rw [← Sockets.frames_shown, List.filter_map]
  show _ = ((Sockets.frames move sockets).filter (·.publicKey = bot)).map Receipt.shown
  have hsame : ∀ receipt ∈ (Sockets.frames move sockets).filter (·.publicKey = bot),
      Receipt.shown receipt = id receipt := by
    intro receipt hreceipt
    rw [List.mem_filter, decide_eq_true_iff] at hreceipt
    rcases (h.mem_frames hreceipt.1 hreceipt.2).2 with hcan | hbrief
    · exact absurd hcan hlacks
    · rw [Receipt.shown, hbrief.shown_eq]
      rfl
  rw [List.map_congr_left hsame, List.map_id]

/-- Harmless moves that look alike send the bot the same. -/
theorem HubAlike.frames_eq (h : HubAlike readCaps bot conn s s') (hmove : move.shown = move'.shown)
    (hharmless : move.Harmless readCaps bot conn s)
    (hharmless' : move'.Harmless readCaps bot conn s') :
    move.frames readCaps bot conn s = move'.frames readCaps bot conn s' := by
  cases move with
  | bot move =>
      cases move' with
      | bot move' =>
          have hstep := h.bot.step (by simpa [BotHubMove.shown] using hmove : move.shown =
            move'.shown)
          simp only [BotHubMove.frames, hstep.received, h.bot.received]
      | socket move' => cases hmove
  | socket move =>
      cases move' with
      | bot move' => cases hmove
      | socket move' =>
          have hmove : move.shown = move'.shown := by simpa [BotHubMove.shown] using hmove
          have hconn : move.conn? = move'.conn? := by
            rw [← SocketMove.conn?_shown move, hmove, SocketMove.conn?_shown]
          simp only [BotHubMove.frames]
          by_cases hturn : move.conn? = some conn ∧ s.bot.task = .selecting
          · have hturn' : move'.conn? = some conn ∧ s'.bot.task = .selecting :=
              ⟨hconn ▸ hturn.1, h.bot.selecting_iff.mp hturn.2⟩
            rw [if_pos hturn, if_pos hturn',
              filter_frames_shown h.bot.app.lacks (hharmless hturn.1 hturn.2),
              filter_frames_shown h.bot.app.lacks' (hharmless' hturn'.1 hturn'.2), hmove, h.sockets]
          · have hturn' : ¬ (move'.conn? = some conn ∧ s'.bot.task = .selecting) := by
              rw [← hconn, ← h.bot.selecting_iff]
              exact hturn
            rw [if_neg hturn, if_neg hturn']

/-- The bot cannot tell two harmless runs apart that look alike. -/
theorem HubAlike.logAll_eq (h : HubAlike readCaps bot conn s s') {moves moves' : List BotHubMove}
    (hmoves : moves.map BotHubMove.shown = moves'.map BotHubMove.shown)
    (hharmless : Along (BotHubMove.step readCaps bot conn) (BotHubMove.Harmless readCaps bot conn)
      moves s)
    (hharmless' : Along (BotHubMove.step readCaps bot conn) (BotHubMove.Harmless readCaps bot conn)
      moves' s') :
    logAll (BotHubMove.step readCaps bot conn) (BotHubMove.frames readCaps bot conn) moves s =
      logAll (BotHubMove.step readCaps bot conn)
      (BotHubMove.frames readCaps bot conn) moves' s' := by
  induction moves generalizing moves' s s' with
  | nil =>
      cases moves' with
      | nil => rfl
      | cons move' rest' => cases hmoves
  | cons move rest ih =>
      cases moves' with
      | nil => cases hmoves
      | cons move' rest' =>
          rw [List.map_cons, List.map_cons, List.cons.injEq] at hmoves
          rw [logAll, logAll, h.frames_eq hmoves.1 hharmless.1 hharmless'.1,
            ih (h.step hmoves.1) hmoves.2 hharmless.2 hharmless'.2]

end Runs

/-! ## The scope -/

/-- What a statement that publishes puts into a queue is about a channel in the
scope of a bot whose connection this is. The task has asked for both before. -/
structure PushesScoped (request : PublishRequest) (past : List (Sent AppState))
    (sent : Sent AppState) : Prop where
  sessions : sent.after.botSessions = sent.before.botSessions
  asked : ∀ conn, sent.after.botQueues conn ≠ sent.before.botQueues conn →
    ∃ session ∈ past, ∃ scope ∈ past, ∃ bot, session.before.botSessions bot = some conn ∧
      scope.before.db.inScope bot request.event.channelId = true

section Follows

variable {readCaps : String → Option (List String)} {request : PublishRequest}
  {past : List (Sent AppState)}

theorem pushesScoped_id (s : AppState) : PushesScoped request past ⟨id, s⟩ :=
  ⟨rfl, fun _ h => absurd rfl h⟩

theorem pushesScoped_trySend {s asked checked : AppState} {bot : String} {conn : ℕ}
    {frame : HubEventFrame} (hasked : ⟨id, asked⟩ ∈ past) (hchecked : ⟨id, checked⟩ ∈ past)
    (hsession : asked.botSessions bot = some conn)
    (hscope : checked.db.inScope bot request.event.channelId = true) :
    PushesScoped request past ⟨(·.trySend conn frame), s⟩ := by
  constructor
  · rw [Sent.after_mk]
    unfold AppState.trySend
    split_ifs <;> rfl
  · intro other hother
    have hsame : other = conn := by
      by_contra hne
      apply hother
      rw [Sent.after_mk]
      unfold AppState.trySend
      split_ifs
      · exact if_neg hne
      · rfl
    subst hsame
    exact ⟨_, hasked, _, hchecked, bot, hsession, hscope⟩

theorem pushEvents_pushesScoped {env : PublishEnv} {seq : Int} :
    (pushEvents readCaps env request.event seq).Follows (PushesScoped request) (fun _ _ => True)
      past := by
  apply follows_fetch_bind pushesScoped_id
  intro s
  apply follows_fetch_bind pushesScoped_id
  intro s'
  apply Prog.follows_when
  · intro _
    apply Prog.follows_query_bind pushesScoped_id
    intro asked
    apply Prog.follows_each
    intro bot _ past' hpast
    have hasked : ⟨id, asked⟩ ∈ past' := hpast.subset (by simp)
    unfold pushEvent
    cases hsession : asked.botSessions bot with
    | none => exact Prog.follows_ret trivial
    | some conn =>
        apply follows_fetch_bind pushesScoped_id
        intro checked
        apply Prog.follows_when
        · intro hscope
          apply follows_fetch_bind pushesScoped_id
          intro v w
          refine ⟨pushesScoped_trySend ?_ ?_ hsession hscope, trivial⟩
          · exact List.mem_append_left _ (List.mem_append_left _ hasked)
          · exact List.mem_append_left _ (List.mem_append_right _ List.mem_cons_self)
        · exact fun _ => trivial
  · exact fun _ => trivial

/-- A statement on the store alone. -/
theorem pushesScoped_of_db {sent : Sent AppState} {db : Db}
    (h : sent.after = sent.before.withDb db) : PushesScoped request past sent :=
  ⟨by rw [h]; rfl, fun conn hne => absurd (by rw [h]; rfl) hne⟩

theorem PublishRequest.handler_pushesScoped (request : PublishRequest) :
    (request.handler readCaps).Follows (PushesScoped request) (fun _ _ => True) [] := by
  have hnext : nextSeq.Follows (PushesScoped request) (fun _ _ => True) [] := by
    apply follows_write_bind fun s => pushesScoped_of_db rfl
    intro s
    exact Prog.follows_query pushesScoped_id fun _ => trivial
  apply hnext.bind_any
  intro seq past _
  cases seq with
  | none => exact Prog.follows_ret trivial
  | some seq =>
      have hstore : (storeEvent (request.event.row request.env seq)).Follows
          (PushesScoped request) (fun _ _ => True) past := by
        apply Prog.Follows.recover
        · apply follows_execute_bind
          · intro s
            rcases executed_cases (insertAudit (request.event.row request.env seq)) s with
              hsame | ⟨db, -, hafter⟩
            · exact pushesScoped_of_db (hsame.trans (rfl : s = s.withDb s.db))
            · exact pushesScoped_of_db hafter
          · exact fun s _ _ => Prog.follows_ret trivial
        · exact fun e past' _ => Prog.follows_ret trivial
      apply hstore.bind_any
      intro stored past' _
      apply Prog.follows_when
      · exact fun _ => pushEvents_pushesScoped
      · exact fun _ => trivial

/-- What is known of a statement that publishes. -/
def PublishScoped (request : PublishRequest) (past : List (Sent AppState)) (sent : Sent AppState) :
    Prop :=
  PushesLive sent ∧ PushesScoped request past sent

theorem PublishRequest.handler_scoped (request : PublishRequest) :
    (request.handler readCaps).Follows (PublishScoped request) (fun _ _ => True) [] :=
  (request.handler_pushesLive.and request.handler_pushesScoped).mono (fun _ _ _ h => h)
    fun _ _ _ _ => trivial

end Follows

/-- Where a frame is on its way through the connection. -/
inductive BotSocket.Holds (conn : ℕ) (s : BotSocket) (frame : HubEventFrame) : Prop
  | queued (h : frame ∈ s.app.botQueues conn)
  | buffered (h : frame ∈ s.replayBuffer)
  | received (h : .hubEvent frame ∈ s.received)
  | sending (loop : Replaying) (h : s.task = .sending loop frame)
  | answering (h : s.task = .answering (.hubEvent frame))

/-- The frame names a channel in the scope, or has been pushed. -/
structure HubEventFrame.Scoped (db : Db) (bot : String) (conn : ℕ)
    (history : List (Event PublishRequest AppState)) (frame : HubEventFrame) : Prop where
  replayed : ∀ fields, frame.replayed = some fields → db.inScope bot fields.channelId = true
  pushed : frame.replayed = none → ∃ e ∈ history, Pushes conn frame e

/-- The invariant: sessions and scopes are those of the start, and what is pushed or
held is within the scope. -/
structure ScopedSocket (app : AppState) (bot : String) (conn : ℕ) (s : BotSocket) : Prop where
  attached : s.server.Attached PublishScoped fun _ _ _ => True
  sessions : s.app.botSessions = app.botSessions
  scope : s.app.db.botChannelScope = app.db.botChannelScope
  asked : ∀ e ∈ s.server.history,
    e.before.botSessions = app.botSessions ∧ e.before.db.botChannelScope = app.db.botChannelScope
  pushes : ∀ e ∈ s.server.history, e.after.botQueues conn ≠ e.before.botQueues conn →
    app.db.inScope bot e.request.event.channelId = true
  frames : ∀ frame, s.Holds conn frame → frame.Scoped app.db bot conn s.server.history

section Scope

variable {readCaps : String → Option (List String)} {app : AppState} {bot : String} {conn : ℕ}
  {s : BotSocket} {frame : HubEventFrame}

theorem scopedSocket_opened (hqueue : app.botQueues conn = []) :
    ScopedSocket app bot conn (.opened app) := by
  refine ⟨Server.attached_idle, rfl, rfl, fun e he => (by cases he), fun e he => (by cases he),
    fun frame hframe => ?_⟩
  cases hframe with
  | queued h =>
      have hnil : (BotSocket.opened app).app.botQueues conn = [] := hqueue
      rw [hnil] at h
      cases h
  | buffered h => cases h
  | received h => cases h
  | sending loop h => cases h
  | answering h => cases h

theorem HubEventFrame.Scoped.mono {db : Db} {history : List (Event PublishRequest AppState)}
    (h : frame.Scoped db bot conn history) (later : List (Event PublishRequest AppState)) :
    frame.Scoped db bot conn (history ++ later) := by
  refine ⟨h.replayed, fun hlive => ?_⟩
  rcases h.pushed hlive with ⟨e, he, hpushes⟩
  exact ⟨e, List.mem_append_left _ he, hpushes⟩

/-- A statement that publishes. -/
theorem ScopedSocket.exec (h : ScopedSocket app bot conn s)
    (howner : ∀ other, app.botSessions other = some conn → other = bot) {job : ℕ}
    {request : PublishRequest} {act : AppState → AppState}
    {next : AppState → Prog AppState ApiError Unit}
    (hjob : s.server.jobs[job]? = some (request, .step act next))
    (hattached : Server.Attached PublishScoped (fun _ _ _ => True)
      ⟨act s.server.state, s.server.jobs.set job (request, next s.server.state),
        s.server.history ++ [⟨⟨act, s.server.state⟩, job, request⟩]⟩) :
    ScopedSocket app bot conn { s with
      server := ⟨act s.server.state, s.server.jobs.set job (request, next s.server.state),
        s.server.history ++ [⟨⟨act, s.server.state⟩, job, request⟩]⟩ } := by
  have hgood := (h.attached.follows job request _ hjob s.server.state).1
  rcases hgood with ⟨hlive, hscoped⟩
  refine ⟨hattached, hscoped.sessions.trans h.sessions, hlive.scope.trans h.scope, ?_, ?_, ?_⟩
  · intro e he
    rcases List.mem_append.mp he with he | he
    · exact h.asked e he
    · rw [List.mem_singleton.mp he]
      exact ⟨h.sessions, h.scope⟩
  · intro e he hchanged
    rcases List.mem_append.mp he with he | he
    · exact h.pushes e he hchanged
    · rw [List.mem_singleton.mp he] at hchanged ⊢
      rcases hscoped.asked conn hchanged with ⟨session, hsession, scope, hscope, other, hconn, hin⟩
      rcases mem_sentBy.mp hsession with ⟨asked, hasked, -, rfl⟩
      rcases mem_sentBy.mp hscope with ⟨checked, hchecked, -, rfl⟩
      rw [(h.asked asked hasked).1] at hconn
      rw [inScope_congr (h.asked checked hchecked).2, howner other hconn] at hin
      exact hin
  · intro frame hframe
    cases hframe with
    | queued hmem =>
        rcases hlive.queues conn with hsame | ⟨last, hlast, hqueue⟩
        · have hmem : frame ∈ s.app.botQueues conn := hsame ▸ hmem
          exact (h.frames frame (.queued hmem)).mono _
        · have hmem : frame ∈ s.app.botQueues conn ++ [last] := hqueue ▸ hmem
          rcases List.mem_append.mp hmem with hmem | hmem
          · exact (h.frames frame (.queued hmem)).mono _
          · rw [List.mem_singleton.mp hmem]
            refine ⟨fun fields hfields => ?_, fun _ =>
              ⟨_, List.mem_append_right _ List.mem_cons_self, hqueue⟩⟩
            rw [hlast] at hfields
            cases hfields
    | buffered hmem => exact (h.frames frame (.buffered hmem)).mono _
    | received hmem => exact (h.frames frame (.received hmem)).mono _
    | sending loop htask => exact (h.frames frame (.sending loop htask)).mono _
    | answering htask => exact (h.frames frame (.answering htask)).mono _

/-- What the task of the connection does is within the scope if every frame it then
holds was held before or names a channel in the scope. -/
theorem ScopedSocket.within {t : BotSocket} (h : ScopedSocket app bot conn s)
    (hjobs : t.server.jobs = s.server.jobs) (hhistory : t.server.history = s.server.history)
    (hdb : t.app.db = s.app.db) (hsessions : t.app.botSessions = s.app.botSessions)
    (hframes : ∀ frame, t.Holds conn frame → s.Holds conn frame ∨
      ∃ fields, frame.replayed = some fields ∧ s.app.db.inScope bot fields.channelId = true) :
    ScopedSocket app bot conn t := by
  refine ⟨?_, hsessions.trans h.sessions, hdb ▸ h.scope, ?_, ?_, ?_⟩
  · constructor
    · rw [hhistory, hjobs]
      exact h.attached.known
    · rw [hhistory, hjobs]
      exact h.attached.follows
  · rw [hhistory]
    exact h.asked
  · rw [hhistory]
    exact h.pushes
  · intro frame hframe
    rw [hhistory]
    rcases hframes frame hframe with hbefore | ⟨fields, hfields, hin⟩
    · exact h.frames frame hbefore
    · refine ⟨fun fields' hfields' => ?_, fun hnone => ?_⟩
      · rw [hfields] at hfields'
        cases hfields'
        rw [← inScope_congr h.scope]
        exact hin
      · rw [hfields] at hnone
        cases hnone

/-- A task that goes on to something else than sending the frame. -/
theorem BotSocket.Holds.of_task {task : ResumeTask} {isReplaying : Bool}
    (h : BotSocket.Holds conn { s with task := task, isReplaying := isReplaying } frame)
    (hsending : ∀ loop, task ≠ .sending loop frame)
    (hanswering : task ≠ .answering (.hubEvent frame)) : s.Holds conn frame := by
  cases h with
  | queued h => exact .queued h
  | buffered h => exact .buffered h
  | received h => exact .received h
  | sending loop h => exact absurd h (hsending loop)
  | answering h => exact absurd h hanswering

theorem replayFrame_inScope {db : Db} {subEvents : List String} {hubUrl : String}
    {row : HubAuditLogRow} (h : db.replayFrame readCaps bot subEvents hubUrl row = some frame) :
    ∃ fields, frame.replayed = some fields ∧ db.inScope bot fields.channelId = true := by
  unfold Db.replayFrame at h
  split_ifs at h with hselected
  cases h
  exact ⟨_, rfl, hselected.2⟩

theorem ScopedSocket.stepTask (h : ScopedSocket app bot conn s) (now : Int) :
    ScopedSocket app bot conn (s.stepTask readCaps bot conn now) := by
  -- Most statements only choose where to go on.
  have hgoOn : ∀ (task : ResumeTask) (isReplaying : Bool),
      (∀ loop frame, task ≠ .sending loop frame) → (∀ frame, task ≠ .answering (.hubEvent frame)) →
      ScopedSocket app bot conn { s with task := task, isReplaying := isReplaying } := by
    intro task isReplaying hsending hanswering
    refine h.within rfl rfl rfl rfl ?_
    exact fun frame hframe => .inl (hframe.of_task (hsending · frame) (hanswering frame))
  unfold BotSocket.stepTask
  cases htask : s.task with
  | selecting => exact h
  | resumed sinceSeq => exact hgoOn _ s.isReplaying (by simp) (by simp)
  | numbered sinceSeq liveSeq =>
      dsimp only
      cases s.app.db.earliestInWindow (now - replayWindow) with
      | none => exact hgoOn _ false (by simp) (by simp)
      | some earliest =>
          dsimp only
          split_ifs
          · exact hgoOn _ false (by simp) (by simp)
          · exact hgoOn _ s.isReplaying (by simp) (by simp)
  | available sinceSeq liveSeq windowStart =>
      dsimp only
      split_ifs
      · exact hgoOn _ false (by simp) (by simp)
      · exact hgoOn _ s.isReplaying (by simp) (by simp)
  | subscribed sinceSeq liveSeq windowStart subEvents =>
      exact hgoOn _ s.isReplaying (by simp) (by simp)
  | selected sinceSeq liveSeq subEvents rows => exact hgoOn _ s.isReplaying (by simp) (by simp)
  | replaying loop =>
      dsimp only
      cases loop.rows with
      | nil => exact hgoOn _ false (by simp) (by simp)
      | cons row rows =>
          dsimp only
          cases hreplay : s.app.db.replayFrame readCaps bot loop.subEvents loop.hubUrl row with
          | none => exact hgoOn _ s.isReplaying (by simp) (by simp)
          | some next =>
              refine h.within rfl rfl rfl rfl ?_
              intro frame hframe
              by_cases hnext : frame = next
              · subst hnext
                exact .inr (replayFrame_inScope hreplay)
              · left
                apply BotSocket.Holds.of_task hframe
                · intro loop' hsame
                  cases hsame
                  exact hnext rfl
                · simp
  | sending loop next =>
      dsimp only
      split_ifs
      · refine h.within rfl rfl rfl rfl ?_
        intro frame hframe
        left
        cases hframe with
        | queued hmem =>
            have hqueue := @withQueue_self conn s.app (s.app.botQueues conn ++ [next])
            have hmem : frame ∈ s.app.botQueues conn ++ [next] := hqueue ▸ hmem
            rcases List.mem_append.mp hmem with hmem | hmem
            · exact .queued hmem
            · rw [List.mem_singleton.mp hmem]
              exact .sending loop htask
        | buffered hmem => exact .buffered hmem
        | received hmem => exact .received hmem
        | sending loop' hsame => cases hsame
        | answering hsame => cases hsame
      · exact h
  | answering answer =>
      refine h.within rfl rfl rfl rfl ?_
      intro frame hframe
      left
      cases hframe with
      | queued hmem => exact .queued hmem
      | buffered hmem => cases hmem
      | received hmem =>
          simp only [List.mem_append, List.mem_map, ResumeFrame.hubEvent.injEq, exists_eq_right,
            List.mem_singleton] at hmem
          rcases hmem with (hmem | hanswer) | hmem
          · exact .received hmem
          · exact .answering (by rw [htask, hanswer])
          · exact .buffered hmem
      | sending loop' hsame => cases hsame
      | answering hsame => cases hsame

theorem ScopedSocket.stepReceive (h : ScopedSocket app bot conn s) :
    ScopedSocket app bot conn (s.stepReceive conn) := by
  by_cases htask : s.task = .selecting
  · unfold BotSocket.stepReceive
    rw [htask]
    cases hqueue : s.app.botQueues conn with
    | nil => exact h
    | cons next queue =>
        have hrest : ∀ frame, frame ∈ (s.app.withQueue conn queue).botQueues conn →
            s.Holds conn frame := by
          intro frame hmem
          rw [withQueue_self] at hmem
          exact .queued (by rw [hqueue]; exact List.mem_cons_of_mem _ hmem)
        have hnext : s.Holds conn next := .queued (by rw [hqueue]; exact List.mem_cons_self)
        dsimp only [BotSocket.withApp]
        split_ifs
        · refine h.within rfl rfl rfl rfl ?_
          intro frame hframe
          left
          cases hframe with
          | queued hmem => exact hrest frame hmem
          | buffered hmem =>
              rcases List.mem_append.mp hmem with hmem | hmem
              · exact .buffered hmem
              · rw [List.mem_singleton.mp hmem]
                exact hnext
          | received hmem => exact .received hmem
          | sending loop hsame => exact .sending loop hsame
          | answering hsame => exact .answering hsame
        · refine h.within rfl rfl rfl rfl ?_
          intro frame hframe
          left
          cases hframe with
          | queued hmem => exact hrest frame hmem
          | buffered hmem => exact .buffered hmem
          | received hmem =>
              rcases List.mem_append.mp hmem with hmem | hmem
              · exact .received hmem
              · cases List.mem_singleton.mp hmem
                exact hnext
          | sending loop hsame => exact .sending loop hsame
          | answering hsame => exact .answering hsame
  · rw [stepReceive_of_busy htask]
    exact h

theorem ScopedSocket.step (h : ScopedSocket app bot conn s)
    (howner : ∀ other, app.botSessions other = some conn → other = bot) (move : ResumeMove) :
    ScopedSocket app bot conn (move.step readCaps bot conn s) := by
  cases move with
  | publish move =>
      have hattached := h.attached.step (@PublishRequest.handler_scoped readCaps) move
      cases move with
      | start request =>
          refine ⟨hattached, h.sessions, h.scope, h.asked, h.pushes, fun frame hframe => ?_⟩
          apply h.frames frame
          cases hframe with
          | queued hmem => exact .queued hmem
          | buffered hmem => exact .buffered hmem
          | received hmem => exact .received hmem
          | sending loop htask => exact .sending loop htask
          | answering htask => exact .answering htask
      | exec job =>
          simp only [ResumeMove.step]
          rcases Server.step_exec_cases (PublishRequest.handler readCaps) job s.server with
            heq | ⟨request, act, next, hjob, heq⟩
          · rw [heq]
            exact h
          · rw [heq] at hattached ⊢
            exact h.exec howner hjob hattached
  | resume sinceSeq =>
      simp only [ResumeMove.step]
      split
      · refine h.within rfl rfl rfl rfl ?_
        exact fun frame hframe => .inl (hframe.of_task (by simp) (by simp))
      · exact h
  | task now => exact h.stepTask now
  | receive => exact h.stepReceive

theorem ScopedSocket.inScope (h : ScopedSocket app bot conn s) (hframe : s.Holds conn frame) :
    frame.InScope s.app.db bot conn s.server.history := by
  have hscoped := h.frames frame hframe
  refine ⟨fun fields hfields => ?_, fun hlive => ⟨hscoped.pushed hlive, fun e he hpushes => ?_⟩⟩
  · rw [inScope_congr h.scope]
    exact hscoped.replayed fields hfields
  · rw [inScope_congr h.scope]
    apply h.pushes e he
    rw [hpushes]
    simp

/-- Moves of the connections leave the bot's events alone. -/
theorem bot_step_socket (move : SocketMove) (s : BotHub) :
    (BotHubMove.step readCaps bot conn (.socket move) s).bot = s.bot := by
  simp only [BotHubMove.step]
  split_ifs <;> rfl

theorem ScopedSocket.stepHub {s : BotHub} (h : ScopedSocket app bot conn s.bot)
    (howner : ∀ other, app.botSessions other = some conn → other = bot) (move : BotHubMove) :
    ScopedSocket app bot conn (move.step readCaps bot conn s).bot := by
  cases move with
  | bot move => exact h.step howner move
  | socket move =>
      rw [bot_step_socket]
      exact h

/-- What a harmless move sends is within the scope. -/
theorem ScopedSocket.mem_frames {s : BotHub} {move : BotHubMove} {frame : BotClientFrame}
    (h : ScopedSocket app bot conn (move.step readCaps bot conn s).bot)
    (hharmless : move.Harmless readCaps bot conn s)
    (hframe : frame ∈ move.frames readCaps bot conn s) :
    frame.InScope bot conn (move.step readCaps bot conn s) := by
  cases move with
  | bot move =>
      rcases List.mem_map.mp hframe with ⟨event, hevent, rfl⟩
      cases event with
      | hubEvent frame => exact h.inScope (.received (List.mem_of_mem_drop hevent))
      | replayComplete sinceSeq replayed liveFromSeq => trivial
      | replayUnavailable earliestSeq earliestAt => trivial
  | socket move =>
      simp only [BotHubMove.frames] at hframe
      split_ifs at hframe with hturn
      · rcases List.mem_map.mp hframe with ⟨receipt, hreceipt, rfl⟩
        rw [List.mem_filter, decide_eq_true_iff] at hreceipt
        have hmay := (hharmless hturn.1 hturn.2).mem_frames hreceipt.1 hreceipt.2
        show (BotHubMove.step readCaps bot conn (.socket move) s).bot.app.db.inScope bot _ = true
        rw [bot_step_socket]
        exact hmay.1
      · cases hframe

end Scope

/-- Two runs that differ only in what a bot may not see are the same to it, and it
hears of no channel out of its scope, if in both whatever comes next on its
connection from a channel it has subscribed to may be shown to it. -/
theorem botScoping_of_harmless (readCaps : String → Option (List String)) (bot : String) (conn : ℕ)
    (app : AppState) (db' : Db) (moves moves' : List BotHubMove)
    (hqueue : app.botQueues conn = [])
    (howner : ∀ other, app.botSessions other = some conn → other = bot)
    (hdb : app.db.shown = db'.shown)
    (hmoves : Along (BotHubMove.step readCaps bot conn)
      (BotHubMove.Harmless readCaps bot conn) moves (.opened app))
    (hmoves' : Along (BotHubMove.step readCaps bot conn) (BotHubMove.Harmless readCaps bot conn)
      moves' (.opened (app.withDb db'))) :
    BotScoping readCaps bot conn (.opened app) (.opened (app.withDb db')) moves moves' := by
  constructor
  · intro hlacks hshown
    have happ : AppAlike readCaps bot conn app (app.withDb db') :=
      ⟨hdb, rfl, fun _ => rfl, rfl, hlacks, howner⟩
    have halike : HubAlike readCaps bot conn (.opened app) (.opened (app.withDb db')) :=
      ⟨⟨Server.alike_idle happ, rfl, rfl, rfl, rfl⟩, rfl⟩
    exact halike.logAll_eq hshown hmoves hmoves'
  · rw [along_iff_split] at hmoves ⊢
    intro first move rest hsplit frame hframe
    have hinv : ∀ calls, ScopedSocket app bot conn
        (runAll (BotHubMove.step readCaps bot conn) calls (.opened app)).bot := by
      intro calls
      have htrivial : Along (BotHubMove.step readCaps bot conn) (fun _ _ => True) calls
          (.opened app) := along_iff_split.mpr fun _ _ _ _ => trivial
      exact htrivial.invariant (fun s : BotHub => ScopedSocket app bot conn s.bot)
        (fun move s _ h => h.stepHub howner move) (scopedSocket_opened hqueue)
    exact ((hinv first).stepHub howner move).mem_frames (hmoves first move rest hsplit) hframe

/-- A bot that follows the messages, on a hub with two channels. Only one of them is
in its scope, and it may not read them. -/
def scopedBot : AppState where
  db := { Db.migrated with
    channels := ⟨[⟨"random", "random", "owner", none, false, 0, none, none, none, none,
      .text, 0, 0⟩,
      ⟨"general", "general", "owner", none, false, 0, none, none, none, none, .text, 0, 0⟩],
      by decide⟩
    botSubscriptions := .single ⟨"bot", "message.created", ""⟩
    botChannelScope := .single ⟨"bot", "general"⟩ }
  botSessions := fun bot => if bot = "bot" then some 0 else none

/-- A message that goes on after what the bot may see of it. -/
def essay (channelId ending : String) : MessageResponse :=
  ⟨"essay", channelId, "owner", none, String.ofList (List.replicate 100 'x') ++ ending,
    20, none, [], [], none, none⟩

/-- The ending is not shown. -/
theorem essay_shown (channelId ending ending' : String) :
    (essay channelId ending).shown = (essay channelId ending').shown := by
  have hpreview : ∀ ending, contentPreview (String.ofList (List.replicate 100 'x') ++ ending) =
      String.ofList (List.replicate 100 'x') := by
    intro ending
    rw [contentPreview, String.toList_append, String.toList_ofList,
      List.take_left' List.length_replicate]
  simp only [MessageResponse.shown, essay, hpreview]

def connectBot : List BotHubMove :=
  [.socket (.connect 0 "bot" 0), .socket (.autoSubscribe 0), .socket (.pushShares 0)]

/-- The message is published as an event and pushed. -/
def publishEssay (ending : String) : List BotHubMove :=
  .bot (.publish (.start
    ⟨⟨"event", 20⟩, messageCreated (fun _ => "[]") (essay "general" ending)⟩)) ::
    List.replicate 9 (.bot (.publish (.exec 0))) ++ [.bot .receive]

/-- The message is broadcast and received. -/
def broadcastEssay (channelId ending : String) : List BotHubMove :=
  [.socket (.broadcast (.new channelId (essay channelId ending))
      (.chatMessage channelId (essay channelId ending))), .socket (.receive 0)]

theorem publishEssay_shown (ending ending' : String) :
    (publishEssay ending).map BotHubMove.shown = (publishEssay ending').map BotHubMove.shown := by
  have hevent := messageCreated_shown (fun _ => "[]") (essay_shown "general" ending ending')
  simp only [publishEssay, List.map_append, List.map_cons, BotHubMove.shown, ResumeMove.shown,
    PublishRequest.shown, hevent]

theorem broadcastEssay_shown (channelId ending ending' : String) :
    (broadcastEssay channelId ending).map BotHubMove.shown =
      (broadcastEssay channelId ending').map BotHubMove.shown := by
  have hessay := essay_shown channelId ending ending'
  simp only [broadcastEssay, List.map_cons, BotHubMove.shown, SocketMove.shown, ChatEvent.shown,
    WsServerMessage.shown, hessay]

/-- The bot is pushed the same event for messages that differ in their endings, and
also receives a short message. -/
theorem botScoping_published :
    (connectBot ++ publishEssay "?" ++ broadcastEssay "general" "").map BotHubMove.shown =
        (connectBot ++ publishEssay "!" ++ broadcastEssay "general" "").map BotHubMove.shown ∧
      BotScoping (fun _ => none) "bot" 0 (.opened scopedBot) (.opened scopedBot)
        (connectBot ++ publishEssay "?" ++ broadcastEssay "general" "")
        (connectBot ++ publishEssay "!" ++ broadcastEssay "general" "") := by
  refine ⟨?_, botScoping_of_harmless _ "bot" 0 scopedBot scopedBot.db _ _ rfl ?_ rfl
    (by decide +kernel) (by decide +kernel)⟩
  · rw [List.map_append, List.map_append, List.map_append, List.map_append,
      publishEssay_shown "?" "!"]
  · intro other hother
    by_contra hne
    have hnone : scopedBot.botSessions other = none := if_neg hne
    rw [hnone] at hother
    cases hother

/-- A bot that has done nothing but connect receives the whole message, from a
channel that is not in its scope. -/
theorem overheard_not_botScoping :
    canReadMessageContent ∉ scopedBot.db.capabilities (fun _ => none) "bot" ∧
      scopedBot.db.inScope "bot" (some "random") = false ∧
      (connectBot ++ broadcastEssay "random" "?").map BotHubMove.shown =
        (connectBot ++ broadcastEssay "random" "!").map BotHubMove.shown ∧
      logAll (BotHubMove.step (fun _ => none) "bot" 0) (BotHubMove.frames (fun _ => none) "bot" 0)
          (connectBot ++ broadcastEssay "random" "?") (.opened scopedBot) =
        [.chat "random" (.text (.chatMessage "random" (essay "random" "?")))] ∧
      ¬ BotScoping (fun _ => none) "bot" 0 (.opened scopedBot) (.opened scopedBot)
        (connectBot ++ broadcastEssay "random" "?")
        (connectBot ++ broadcastEssay "random" "!") := by
  have hshown : (connectBot ++ broadcastEssay "random" "?").map BotHubMove.shown =
      (connectBot ++ broadcastEssay "random" "!").map BotHubMove.shown := by
    rw [List.map_append, List.map_append, broadcastEssay_shown "random" "?" "!"]
  refine ⟨by decide +kernel, by decide +kernel, hshown, by decide +kernel, fun h => ?_⟩
  have hsame := h.content (by decide +kernel) hshown
  exact absurd hsame (by decide +kernel)

end Voxply.Hub
