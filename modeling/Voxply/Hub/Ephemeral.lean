/-
# Ephemeral messages

The row of a message can name the one user who may see it.  Bots ask for it when a
reply is meant for the user who has invoked them, and the hub marks its notices of
failure so.  The connections honour the mark when a message is new.  Nobody else
does: the queries for a page of the channel, for the preview of a parent, for an
edited message and for the alliance do not select it.

What users are told is therefore compared with the store: whatever a message says
about the rows that it mentions has to be meant for the reader.  This holds in every
run in which no such message is read, answered, edited or updated.  The argument
keeps the whole log of broadcasts in view, because what waits at a connection has
been sent at some earlier time and is delivered at some later one.
-/

import Voxply.Hub.ChannelBans
import Voxply.Hub.Messages
import Voxply.Hub.Silencing
import Voxply.Math.Trace

namespace Voxply.Hub

open Voxply.Math

/-! ## Who may see a message -/

/-- The row names no other user. -/
def MessageRow.VisibleTo (row : MessageRow) (user : String) : Prop :=
  ∀ owner ∈ row.visibleToPubkey, owner = user

/-- There is nothing under the id that the user may not see. -/
def Db.Shows (db : Db) (messageId user : String) : Prop :=
  ∀ row ∈ db.messages.find? messageId, row.VisibleTo user

/-- There is no ephemeral message under the id. -/
def Db.Public (db : Db) (messageId : String) : Prop :=
  ∀ row ∈ db.messages.find? messageId, row.visibleToPubkey = none

/-- The messages whose content is told: the message itself, and the parent that it
previews. -/
def MessageResponse.mentions (m : MessageResponse) : List String :=
  m.id :: (m.replyTo.map (·.messageId)).toList

/-- Everything that is told is meant for the user. -/
def MessageResponse.PrivateTo (m : MessageResponse) (db : Db) (user : String) : Prop :=
  ∀ messageId ∈ m.mentions, db.Shows messageId user

/-- The message in an envelope. -/
def WsServerMessage.carried : WsServerMessage → Option MessageResponse
  | .chatMessage _ message => some message
  | .messageEdited _ message => some message
  | _ => none

/-! ## Requests -/

/-- What is outside: the bots, the other hubs and the full-text index. -/
structure ChatWorld where
  bots : BotWorld
  alliance : AllianceWorld
  fts : String → Except String (String → Bool)

inductive ChatRequest where
  | sendMessage (env : SendMessageEnv) (user channelId : String) (req : SendMessageRequest)
  | editMessage (now : Int) (user channelId messageId : String) (req : EditMessageRequest)
  | deleteMessage (user channelId messageId : String)
  | getMessages (user channelId : String) (params : PaginationParams)
  | addReaction (now : Int) (user channelId messageId : String) (req : ReactionRequest)
  /-- A component of a message is used. -/
  | component (env : ComponentEnv) (messageId customId : String) (values : List String)
      (user : String)
  | postAlliance (env : SendMessageEnv) (user allianceId channelId : String)
      (req : SendMessageRequest)
  | readAlliance (user allianceId channelId : String)
  deriving DecidableEq

namespace ChatRequest

def user : ChatRequest → String
  | .sendMessage _ user _ _ => user
  | .editMessage _ user _ _ _ => user
  | .deleteMessage user _ _ => user
  | .getMessages user _ _ => user
  | .addReaction _ user _ _ _ => user
  | .component _ _ _ _ user => user
  | .postAlliance _ user _ _ _ => user
  | .readAlliance user _ _ => user

/-- The handler of a request, with the messages of its answer. -/
def handler (world : ChatWorld) : ChatRequest → Handler (List MessageResponse)
  | .sendMessage env user channelId req => do
      let answer ← Hub.sendMessage world.bots env user channelId req
      pure [answer.2]
  | .editMessage now user channelId messageId req => do
      let message ← Hub.editMessage now user channelId messageId req
      pure [message]
  | .deleteMessage user channelId messageId => do
      let _ ← Hub.deleteMessage user channelId messageId
      pure []
  | .getMessages user channelId params => Hub.getMessages world.fts user channelId params
  | .addReaction now user channelId messageId req => do
      let _ ← Hub.addReaction now user channelId messageId req
      pure []
  | .component env messageId customId values user => do
      dispatchComponent world.bots env messageId customId values user
      pure []
  | .postAlliance env user allianceId channelId req => do
      let answer ← postAllianceChannelMessage world.bots world.alliance env user allianceId
        channelId req
      pure [answer.2]
  | .readAlliance user allianceId channelId =>
      getAllianceChannelMessages world.alliance user allianceId channelId

/-- The channel is one of this hub. What another hub answers about its own channels
is passed on as it is. -/
def isLocal (db : Db) : ChatRequest → Bool
  | .postAlliance _ _ allianceId channelId _ =>
      db.allianceSharedChannels.has (allianceId, channelId)
  | .readAlliance _ allianceId channelId => db.allianceSharedChannels.has (allianceId, channelId)
  | _ => true

/-- The messages of this hub that the user is answered with. -/
def answer (world : ChatWorld) (request : ChatRequest) (s : AppState) : List MessageResponse :=
  if request.isLocal s.db then ((request.handler world).run s).1.toOption.getD [] else []

/-- The ids that a request draws. -/
def drawn : ChatRequest → List String
  | .sendMessage env _ _ _ => [env.slash.replyId, env.errorId, env.id]
  | .component env _ _ _ _ => [env.replyId]
  | .postAlliance env _ _ _ _ => [env.slash.replyId, env.errorId, env.id]
  | _ => []

end ChatRequest

/-! ## Runs -/

/-- A hub and its connections. -/
structure ChatHub where
  app : AppState
  sockets : Sockets := {}

/-- A hub that has just been started: nobody is connected, and nothing has been
broadcast. -/
def ChatHub.opened (app : AppState) : ChatHub :=
  ⟨{ app with chatTx := [] }, {}⟩

inductive ChatMove where
  /-- A request comes in and is answered. -/
  | http (request : ChatRequest)
  | socket (move : SocketMove)
  deriving DecidableEq

/-- The broadcast of a message. These come from the requests alone. -/
def SocketMove.announces : SocketMove → Bool
  | .broadcast _ message => message.carried.isSome
  | _ => false

/-- Events are put into the queues of all connections. -/
def Sockets.publish (db : Db) (entries : List (ChatEvent × WsServerMessage)) (sockets : Sockets) :
    Sockets :=
  entries.foldl (fun sockets entry => sockets.move db (.broadcast entry.1 entry.2)) sockets

def Sockets.tick (sockets : Sockets) : Sockets :=
  { sockets with clock := sockets.clock + 1 }

/-- A message that a user has got to see, with the number of moves before it was
sent and before it was received. -/
structure Disclosure where
  reader : String
  message : MessageResponse
  sentAt : ℕ
  receivedAt : ℕ
  deriving DecidableEq

/-- The message in a frame. -/
def Receipt.disclosure? (receipt : Receipt) : Option Disclosure :=
  match receipt.frame with
  | .text message =>
      message.carried.map (⟨receipt.publicKey, ·, receipt.sentAt, receipt.receivedAt⟩)
  | .binary _ => none

namespace ChatMove

def step (world : ChatWorld) : ChatMove → ChatHub → ChatHub
  | .http request, s =>
      let app := ((request.handler world).run s.app).2
      ⟨app, (s.sockets.publish app.db (app.chatTx.drop s.app.chatTx.length)).tick⟩
  | .socket move, s =>
      ⟨s.app, (if move.announces then s.sockets else s.sockets.move s.app.db move).tick⟩

/-- What a move lets users see. -/
def discloses (world : ChatWorld) : ChatMove → ChatHub → List Disclosure
  | .http request, s =>
      (request.answer world s.app).map
        (⟨request.user, ·, s.sockets.clock, s.sockets.clock⟩)
  | .socket move, s => (Sockets.frames move s.sockets).filterMap Receipt.disclosure?

end ChatMove

/-- Ephemeral messages stay private: whatever a user sees in a run, in an answer or
in a frame, tells nothing that is in the store and meant for somebody else, at any
time from the sending to the delivery. -/
def EphemeralPrivate (world : ChatWorld) (moves : List ChatMove) (s : ChatHub) : Prop :=
  ∀ d ∈ logAll (ChatMove.step world) (ChatMove.discloses world) moves s,
    ∀ i, d.sentAt < i → i ≤ d.receivedAt + 1 →
      d.message.PrivateTo (runAll (ChatMove.step world) (moves.take i) s).app.db d.reader

/-! ## Requests that keep away from ephemeral messages -/

/-- The rows that a page is cut from. -/
def Db.candidates (db : Db) (fts : String → Except String (String → Bool)) (channelId : String)
    (params : PaginationParams) : List MessageRow :=
  match (params.q.map trim).filter (· ≠ ""), params.before with
  | some q, _ =>
      match fts q with
      | .ok hit => db.messages.rows.filter fun row => row.channelId = channelId ∧ hit row.content
      | .error _ => []
  | none, some beforeId =>
      (if db.messages.has beforeId then db.messages.rows.takeWhile (·.id ≠ beforeId)
        else []).filter (·.channelId = channelId)
  | none, none => db.messages.rows.filter (·.channelId = channelId)

/-- Fewer than `limit` of the rows are newer. -/
def Within (rows : List MessageRow) (limit : Int) (row : MessageRow) : Prop :=
  0 ≤ limit → (rows.filter (row.createdAt < ·.createdAt)).length < limit.toNat

/-- What the webhook of a bot is asked when a component of one of its messages is
used. -/
def Db.interaction (db : Db) (messageId customId : String) (values : List String) (user : String) :
    Option (String × ComponentInteraction) := do
  let row ← db.messages.find? messageId
  let sender ← db.users.find? row.sender
  let profile ← db.botProfiles.find? row.sender
  let webhookUrl ← profile.webhookUrl
  guard (sender.isBot = true ∧ webhookUrl ≠ "" ∧ db.inScope row.sender (some row.channelId) = true)
  pure (webhookUrl, ⟨db.hubUrl, row.channelId, messageId, customId, values,
    ⟨user, db.displayNameOf user⟩⟩)

/-- The bot answers with an update of its message. -/
def ComponentResponse.Updates (response : ComponentResponse) : Prop :=
  response.defer.getD false = false ∧ response.update ≠ none

/-- A message of the channel that is replied to is not ephemeral. -/
def Db.RepliesOpenly (db : Db) (channelId : String) (req : SendMessageRequest) : Prop :=
  ∀ parentId ∈ req.replyTo, ∀ row ∈ db.messages.find? parentId,
    row.channelId = channelId → row.visibleToPubkey = none

/-- The request does not reply to an ephemeral message, edit or update one, or read
one that is meant for somebody else, be it on the page or as the parent of a message
there. -/
def ChatRequest.Careful (world : ChatWorld) (db : Db) : ChatRequest → Prop
  | .sendMessage _ _ channelId req => db.RepliesOpenly channelId req
  | .editMessage _ user channelId messageId _ =>
      ∀ row ∈ db.messages.find? messageId, row.channelId = channelId → row.sender = user →
        row.visibleToPubkey = none ∧ ∀ parentId ∈ row.replyTo, db.Public parentId
  | .getMessages user channelId params =>
      ∀ row ∈ db.candidates world.fts channelId params,
        Within (db.candidates world.fts channelId params) (min (params.limit.getD 50) 100) row →
          row.VisibleTo user ∧ ∀ parentId ∈ row.replyTo, db.Shows parentId user
  | .component _ messageId customId values user =>
      ∀ asked ∈ db.interaction messageId customId values user,
        ∀ response ∈ world.bots.component asked.1 asked.2, response.Updates → db.Public messageId
  | .postAlliance _ _ allianceId channelId req =>
      db.allianceSharedChannels.has (allianceId, channelId) = true → db.RepliesOpenly channelId req
  | .readAlliance user allianceId channelId =>
      db.allianceSharedChannels.has (allianceId, channelId) = true →
        ∀ row ∈ db.messages.rows.filter (·.channelId = channelId),
          Within (db.messages.rows.filter (·.channelId = channelId)) 50 row → row.VisibleTo user
  | .deleteMessage _ _ _ => True
  | .addReaction _ _ _ _ _ => True

def ChatMove.Careful (world : ChatWorld) : ChatMove → ChatHub → Prop
  | .http request, s => request.Careful world s.app.db
  | .socket _, _ => True

/-- No row has the id, and nothing that was broadcast mentions it. -/
def AppState.Unused (s : AppState) (messageId : String) : Prop :=
  s.db.messages.has messageId = false ∧
    ∀ entry ∈ s.chatTx, ∀ m ∈ entry.2.carried, messageId ∉ m.mentions

/-- The ids that are drawn are new. -/
def ChatMove.Fresh : ChatMove → ChatHub → Prop
  | .http request, s => request.drawn.Nodup ∧ ∀ messageId ∈ request.drawn, s.app.Unused messageId
  | .socket _, _ => True

section Decidable

variable (world : ChatWorld) (db : Db)

instance decidableVisibleTo (row : MessageRow) (user : String) : Decidable (row.VisibleTo user) :=
  inferInstanceAs (Decidable (∀ owner ∈ row.visibleToPubkey, owner = user))

instance decidableShows (messageId user : String) : Decidable (db.Shows messageId user) :=
  inferInstanceAs (Decidable (∀ row ∈ db.messages.find? messageId, row.VisibleTo user))

instance decidablePublic (messageId : String) : Decidable (db.Public messageId) :=
  inferInstanceAs (Decidable (∀ row ∈ db.messages.find? messageId, row.visibleToPubkey = none))

instance decidableWithin (rows : List MessageRow) (limit : Int) (row : MessageRow) :
    Decidable (Within rows limit row) :=
  inferInstanceAs (Decidable (_ → _))

instance decidableUpdates (response : ComponentResponse) : Decidable response.Updates :=
  inferInstanceAs (Decidable (_ ∧ _))

instance decidableRepliesOpenly (channelId : String) (req : SendMessageRequest) :
    Decidable (db.RepliesOpenly channelId req) :=
  inferInstanceAs (Decidable (∀ parentId ∈ req.replyTo, ∀ row ∈ db.messages.find? parentId,
    row.channelId = channelId → row.visibleToPubkey = none))

instance decidableCareful : ∀ request : ChatRequest, Decidable (request.Careful world db)
  | .sendMessage _ _ _ _ => inferInstanceAs (Decidable (db.RepliesOpenly _ _))
  | .editMessage _ _ _ _ _ =>
      inferInstanceAs (Decidable (∀ row ∈ _, _ → _ → _ ∧ ∀ parentId ∈ _, _))
  | .getMessages _ _ _ => inferInstanceAs (Decidable (∀ row ∈ _, _ → _ ∧ ∀ parentId ∈ _, _))
  | .component _ _ _ _ _ => inferInstanceAs (Decidable (∀ asked ∈ _, ∀ response ∈ _, _ → _))
  | .postAlliance _ _ _ _ _ => inferInstanceAs (Decidable (_ → db.RepliesOpenly _ _))
  | .readAlliance _ _ _ => inferInstanceAs (Decidable (_ → ∀ row ∈ _, _ → _))
  | .deleteMessage _ _ _ => .isTrue trivial
  | .addReaction _ _ _ _ _ => .isTrue trivial

instance decidableCarefulMove : ∀ (move : ChatMove) (s : ChatHub), Decidable (move.Careful world s)
  | .http request, s => decidableCareful world s.app.db request
  | .socket _, _ => inferInstanceAs (Decidable True)

instance decidableUnused (s : AppState) (messageId : String) : Decidable (s.Unused messageId) :=
  inferInstanceAs (Decidable (_ ∧ ∀ entry ∈ s.chatTx, ∀ m ∈ entry.2.carried,
    messageId ∉ m.mentions))

instance decidableFreshMove : ∀ (move : ChatMove) (s : ChatHub), Decidable (move.Fresh s)
  | .http request, s =>
      inferInstanceAs (Decidable (request.drawn.Nodup ∧ ∀ messageId ∈ request.drawn,
        s.app.Unused messageId))
  | .socket _, _ => inferInstanceAs (Decidable True)

end Decidable

/-! ## The log of broadcasts -/

/-- Whoever an event reaches may see what it tells. -/
def Db.Guards (db : Db) (entry : ChatEvent × WsServerMessage) : Prop :=
  ∀ user, entry.1.passes user = true → ∀ m ∈ entry.2.carried, m.PrivateTo db user

/-- Nothing that was ever broadcast tells what is not meant for those that it
reaches. A request has the ids that it has drawn and not used yet, and finds what
was broadcast in the past. -/
structure AppState.Discreet (past : List (ChatEvent × WsServerMessage)) (drawn : List String)
    (s : AppState) : Prop where
  since : past <+: s.chatTx
  guards : ∀ entry ∈ s.chatTx, s.db.Guards entry
  unused : ∀ messageId ∈ drawn, s.Unused messageId
  nodup : drawn.Nodup

section Discreet

variable {past : List (ChatEvent × WsServerMessage)} {drawn : List String} {s : AppState}

theorem MessageRow.visibleTo_of_none {row : MessageRow} (h : row.visibleToPubkey = none)
    (user : String) : row.VisibleTo user := by
  intro owner howner
  rw [h] at howner
  cases howner

theorem Db.Public.shows {db : Db} {messageId : String} (h : db.Public messageId) (user : String) :
    db.Shows messageId user :=
  fun row hrow => MessageRow.visibleTo_of_none (h row hrow) user

theorem AppState.Unused.find? {messageId : String} (h : s.Unused messageId) :
    s.db.messages.find? messageId = none :=
  Table.find?_eq_none_iff.mpr fun row hrow hid =>
    (Table.has_eq_false_iff.mp h.1) row hrow hid

namespace AppState.Discreet

/-- An id that is not used. -/
theorem skip {messageId : String} (h : s.Discreet past (messageId :: drawn)) :
    s.Discreet past drawn :=
  ⟨h.since, h.guards, fun other hother => h.unused other (List.mem_cons_of_mem _ hother),
    (List.nodup_cons.mp h.nodup).2⟩

/-- A change of the store under which rows, apart from those with the given ids, do
not appear and do not change who may see them. -/
theorem store {used : List String} (h : s.Discreet past (used ++ drawn)) {db : Db}
    (hkept : ∀ messageId, messageId ∉ used → ∀ row ∈ db.messages.find? messageId,
      ∃ old ∈ s.db.messages.find? messageId, old.visibleToPubkey = row.visibleToPubkey) :
    (s.withDb db).Discreet past drawn where
  since := h.since
  guards entry hentry user hpasses m hm messageId hmem row hrow := by
    have hnot : messageId ∉ used := fun hused =>
      (h.unused messageId (List.mem_append_left _ hused)).2 entry hentry m hm hmem
    rcases hkept messageId hnot row hrow with ⟨old, hold, hsame⟩
    have hvisible := h.guards entry hentry user hpasses m hm messageId hmem old hold
    rwa [MessageRow.VisibleTo, hsame] at hvisible
  unused messageId hmem := by
    have hnew := h.unused messageId (List.mem_append_right _ hmem)
    refine ⟨?_, hnew.2⟩
    rw [withDb_db, Table.has_eq_false_iff]
    intro row hrow hid
    have hnot : messageId ∉ used := fun hused =>
      (List.nodup_append.mp h.nodup).2.2 messageId hused messageId hmem rfl
    rcases hkept messageId hnot row (Table.find?_eq_some_iff.mpr ⟨hrow, hid⟩) with ⟨old, hold, -⟩
    rw [hnew.find?] at hold
    cases hold
  nodup := (List.nodup_append.mp h.nodup).2.1

/-- A change of the store that leaves the messages alone. -/
theorem store_of_messages_eq (h : s.Discreet past drawn) {db : Db}
    (hmessages : db.messages = s.db.messages) : (s.withDb db).Discreet past drawn :=
  @store past drawn s [] h db fun _ _ row hrow => ⟨row, hmessages ▸ hrow, rfl⟩

theorem send (h : s.Discreet past drawn) {event : ChatEvent} {message : WsServerMessage}
    (hguards : s.db.Guards (event, message))
    (hnew : ∀ m ∈ message.carried, ∀ messageId ∈ m.mentions, messageId ∉ drawn) :
    (s.sendChat event message).Discreet past drawn where
  since := h.since.trans (List.prefix_append _ _)
  guards entry hentry := by
    rcases List.mem_append.mp hentry with hentry | hentry
    · exact h.guards entry hentry
    · rw [List.mem_singleton.mp hentry]
      exact hguards
  unused messageId hmem := by
    refine ⟨(h.unused messageId hmem).1, fun entry hentry m hm hmentions => ?_⟩
    rcases List.mem_append.mp hentry with hentry | hentry
    · exact (h.unused messageId hmem).2 entry hentry m hm hmentions
    · rw [List.mem_singleton.mp hentry] at hm
      exact hnew m hm messageId hmentions hmem
  nodup := h.nodup

/-- An event that tells of no message. -/
theorem send_of_carried_none (h : s.Discreet past drawn) {event : ChatEvent}
    {message : WsServerMessage} (hnone : message.carried = none) :
    (s.sendChat event message).Discreet past drawn := by
  apply h.send
  · intro user _ m hm
    rw [show ((event, message) : ChatEvent × WsServerMessage).2.carried = none from hnone] at hm
    cases hm
  · intro m hm
    rw [hnone] at hm
    cases hm

end AppState.Discreet

/-! ## What the statements do -/

/-- An insertion adds one row. -/
theorem find?_insertMessage {row : MessageRow} {db db' : Db} (h : insertMessage row db = .ok db')
    (messageId : String) :
    db'.messages.find? messageId =
      if messageId = row.id then some row else db.messages.find? messageId := by
  unfold insertMessage at h
  cases hinsert : db.messages.insert? row with
  | none => simp [hinsert] at h
  | some messages =>
      rw [hinsert] at h
      dsimp only at h
      split_ifs at h
      cases h
      have hrows := (Table.insert?_eq_some_iff.mp hinsert).2
      rw [Table.find?_of_append hrows]

theorem insertMessage_free {row : MessageRow} {db db' : Db} (h : insertMessage row db = .ok db') :
    db.messages.find? row.id = none := by
  unfold insertMessage at h
  cases hinsert : db.messages.insert? row with
  | none => simp [hinsert] at h
  | some messages =>
      exact Table.find?_eq_none_iff.mpr (Table.insert?_eq_some_iff.mp hinsert).1

/-- The rows that were there are still there. -/
def Db.Extends (db' db : Db) : Prop :=
  ∀ messageId row, db.messages.find? messageId = some row → db'.messages.find? messageId = some row

theorem Db.Extends.refl (db : Db) : db.Extends db :=
  fun _ _ h => h

theorem extends_insertMessage {row : MessageRow} {db db' : Db}
    (h : insertMessage row db = .ok db') : db'.Extends db := by
  intro messageId found hfound
  rw [find?_insertMessage h, if_neg, hfound]
  rintro rfl
  rw [insertMessage_free h] at hfound
  cases hfound

theorem AppState.Discreet.insert {row : MessageRow}
    (h : s.Discreet past (row.id :: drawn)) {db : Db}
    (hinsert : insertMessage row s.db = .ok db) : (s.withDb db).Discreet past drawn := by
  apply @AppState.Discreet.store past drawn s [row.id] h
  intro messageId hne found hfound
  rw [List.mem_singleton] at hne
  rw [find?_insertMessage hinsert, if_neg hne] at hfound
  exact ⟨found, hfound, rfl⟩

/-- A row is stored or refused; there is no other under its id. -/
theorem run_writeIgnoring_insertMessage {row : MessageRow}
    (h : s.Discreet past (row.id :: drawn)) :
    ∃ db, (writeIgnoring (insertMessage row)).run s = (.ok (), s.withDb db) ∧
      (s.withDb db).Discreet past drawn ∧ db.Extends s.db ∧
      ∀ found ∈ db.messages.find? row.id, found.visibleToPubkey = row.visibleToPubkey := by
  cases hinsert : insertMessage row s.db with
  | ok db =>
      refine ⟨db, run_writeIgnoring_of_ok hinsert, h.insert hinsert,
        extends_insertMessage hinsert, ?_⟩
      intro found hfound
      rw [find?_insertMessage hinsert, if_pos rfl] at hfound
      cases hfound
      rfl
  | error e =>
      refine ⟨s.db, ?_, h.skip, .refl s.db, ?_⟩
      · rw [writeIgnoring, run_write, hinsert]
      · intro found hfound
        rw [(h.unused row.id List.mem_cons_self).find?] at hfound
        cases hfound

/-- A new message without a parent goes to those who may see its row. -/
theorem AppState.Discreet.announce (h : s.Discreet past drawn) {channelId : String}
    {m : MessageResponse} (hid : m.id ∉ drawn) (hreply : m.replyTo = none)
    (hrow : ∀ row ∈ s.db.messages.find? m.id, row.visibleToPubkey = m.visibleToPubkey) :
    (s.sendChat (.new channelId m) (.chatMessage channelId m)).Discreet past drawn := by
  have hmentions : m.mentions = [m.id] := by
    rw [MessageResponse.mentions, hreply]
    rfl
  apply h.send
  · intro user hpasses m' hm' messageId hmem row hfound
    cases hm'
    rw [hmentions, List.mem_singleton] at hmem
    subst hmem
    rw [MessageRow.VisibleTo, hrow row hfound]
    intro owner howner
    rw [Option.mem_def] at howner
    simpa [ChatEvent.passes, howner] using hpasses
  · intro m' hm' messageId hmem
    cases hm'
    rw [hmentions, List.mem_singleton] at hmem
    rwa [hmem]

/-- A message that anybody may see. -/
theorem AppState.Discreet.send_public (h : s.Discreet past drawn) {event : ChatEvent}
    {message : WsServerMessage} {m : MessageResponse} (hcarried : message.carried = some m)
    (hpublic : ∀ messageId ∈ m.mentions, s.db.Public messageId)
    (hnew : ∀ messageId ∈ m.mentions, messageId ∉ drawn) :
    (s.sendChat event message).Discreet past drawn := by
  apply h.send
  · intro user _ m' hm' messageId hmem
    rw [show ((event, message) : ChatEvent × WsServerMessage).2.carried =
      some m from hcarried] at hm'
    cases hm'
    exact (hpublic messageId hmem).shows user
  · intro m' hm'
    rw [hcarried] at hm'
    cases hm'
    exact hnew

/-- A preview tells of the parent. -/
theorem mem_mentions_of_replyContext {m : MessageResponse} {db : Db} {replyTo : Option String}
    (hreply : m.replyTo = replyTo.bind db.replyContext) {messageId : String}
    (hmem : messageId ∈ m.mentions) : messageId = m.id ∨ messageId ∈ replyTo := by
  rw [MessageResponse.mentions, hreply, List.mem_cons] at hmem
  rcases hmem with rfl | hmem
  · exact .inl rfl
  · right
    cases replyTo with
    | none => cases hmem
    | some parentId =>
        rw [Option.bind_some, Db.replyContext, Option.map_map] at hmem
        cases hfound : db.messages.find? parentId with
        | none =>
            rw [hfound] at hmem
            cases hmem
        | some row =>
            rw [hfound] at hmem
            rw [Option.mem_def, List.mem_singleton.mp hmem]
            rfl

/-! ## What bots reply -/

variable {world : ChatWorld}

/-- A part of a request that may draw on the ids, and keeps the rows. -/
def Passed (past : List (ChatEvent × WsServerMessage)) (drawn : List String) (db : Db) {A : Type} :
    Except ApiError A → AppState → Prop :=
  fun _ t => t.Discreet past drawn ∧ t.db.Extends db

theorem reply_ends {command : MatchedCommand} {env : SlashEnv} {channelId invoker body : String}
    {ephemeral : Bool} (h : s.Discreet past (env.replyId :: drawn)) :
    (command.reply env channelId invoker body ephemeral).Ends s (Passed past drawn s.db) := by
  rcases @run_writeIgnoring_insertMessage past drawn s
    ⟨env.replyId, channelId, command.botPubkey, body, [], none, env.repliedAt, none,
      if ephemeral then some invoker else none⟩ h with ⟨db, hrun, hdiscreet, hextends, hrow⟩
  rw [MatchedCommand.reply, Prog.ends_bind_of_ok hrun, Prog.ends_bind_of_ok (run_fetch _ _)]
  refine ⟨hdiscreet.announce ?_ rfl hrow, hextends⟩
  exact (List.nodup_cons.mp h.nodup).1

theorem dispatch_ends {command : MatchedCommand} {env : SlashEnv}
    {channelId invoker webhookUrl : String} {text : SlashText}
    (h : s.Discreet past (env.replyId :: drawn)) :
    (command.dispatch world.bots env channelId invoker webhookUrl text).Ends s
      (Passed past drawn s.db) := by
  rw [MatchedCommand.dispatch, Prog.ends_bind_of_ok (run_fetch _ s),
    Prog.ends_bind_of_ok (run_fetch _ s)]
  cases world.bots.slash webhookUrl _ with
  | none => exact ⟨h.skip, .refl s.db⟩
  | some response =>
      dsimp only
      cases response.reply with
      | none => exact ⟨h.skip, .refl s.db⟩
      | some body =>
          apply (reply_ends h).bind
          · exact fun _ _ hpassed => hpassed
          · exact fun _ _ hpassed => hpassed

/-- Whatever the rest makes of the answer, asking for a permission only reads. -/
theorem ends_permitted {command : MatchedCommand} {invoker : String}
    {k : Bool → Handler (Option String)} {post : Except ApiError (Option String) → AppState → Prop}
    (hk : ∀ allowed, (k allowed).Ends s post) :
    Prog.Ends (if command.privileged = true then do
        let perms ← userPermissions invoker
        let allowed ← pure (perms.has manageMessages)
        k allowed
      else do
        let allowed ← pure true
        k allowed) s post := by
  split_ifs
  · rw [Prog.ends_bind_of_ok (run_userPermissions invoker s),
      Prog.ends_bind_of_ok (Prog.run_pure _ s)]
    exact hk _
  · rw [Prog.ends_bind_of_ok (Prog.run_pure _ s)]
    exact hk _

theorem dispatchSlash_ends {env : SlashEnv} {channelId invoker content : String}
    (h : s.Discreet past (env.replyId :: drawn)) :
    (dispatchSlash world.bots env channelId invoker content).Ends s (Passed past drawn s.db) := by
  have hnothing : s.Discreet past drawn ∧ s.db.Extends s.db := ⟨h.skip, .refl s.db⟩
  unfold dispatchSlash
  split_ifs
  · exact hnothing
  · dsimp only
    split_ifs
    · exact hnothing
    · rw [Prog.ends_bind_of_ok (run_fetch _ s)]
      split
      · exact hnothing
      · apply ends_permitted
        intro allowed
        split_ifs
        · exact hnothing
        · split
          · exact hnothing
          · split_ifs
            · exact hnothing
            · exact dispatch_ends h

/-! ## Sending -/

/-- A request ends: the user may see the messages of the answer. -/
def Told (past : List (ChatEvent × WsServerMessage)) (user : String) {A : Type}
    (told : A → List MessageResponse) : Except ApiError A → AppState → Prop :=
  fun r t => t.Discreet past [] ∧ ∀ a, r = .ok a → ∀ m ∈ told a, m.PrivateTo t.db user

section Requests

variable {user channelId : String} {A : Type} {told : A → List MessageResponse}

theorem told_error (h : s.Discreet past drawn) (e : ApiError) : Told past user told (.error e) s :=
  ⟨⟨h.since, h.guards, fun _ hmem => (by cases hmem), List.nodup_nil⟩, fun _ ha => (by cases ha)⟩

/-- An answer that is cut down to its messages. -/
theorem told_map {p : Handler A} (h : p.Ends s (Told past user told)) :
    (p >>= fun a => pure (told a)).Ends s (Told past user id) := by
  apply h.bind
  · exact fun e t ht => told_error ht.1 e
  · intro a t ht
    refine ⟨ht.1, fun _ hms => ?_⟩
    cases hms
    exact ht.2 a rfl

theorem storeMessage_ends {env : SendMessageEnv} {req : SendMessageRequest}
    (h : s.Discreet past [env.id]) (hparent : ∀ parentId ∈ req.replyTo, s.db.Public parentId) :
    (storeMessage env user channelId req).Ends s (Told past user fun answer => [answer.2]) := by
  unfold storeMessage
  cases hinsert : insertMessage ⟨env.id, channelId, user, req.content, req.attachments, req.replyTo,
      env.now, none, none⟩ s.db with
  | error e =>
      rw [Prog.Ends, Prog.run_bind_of_error (run_execute_of_error hinsert)]
      exact told_error h _
  | ok db =>
      rw [Prog.ends_bind_of_ok (run_execute_of_ok hinsert),
        Prog.ends_bind_of_ok (run_fetchReply _ _), Prog.ends_bind_of_ok (run_fetch _ _)]
      have hopen : ∀ messageId, messageId = env.id ∨ messageId ∈ req.replyTo →
          db.Public messageId := by
        intro messageId hmem row hrow
        rw [find?_insertMessage hinsert] at hrow
        split_ifs at hrow with hid
        · cases hrow
          rfl
        · exact hparent messageId (hmem.resolve_left hid) row hrow
      have hmentions : ∀ messageId ∈ MessageResponse.mentions
          { id := env.id, channelId := channelId, sender := user,
            senderName := (s.withDb db).db.displayNameOf user, content := req.content,
            createdAt := env.now, attachments := req.attachments,
            replyTo := req.replyTo.bind (s.withDb db).db.replyContext },
          db.Public messageId :=
        fun messageId hmem => hopen messageId (mem_mentions_of_replyContext rfl hmem)
      have hstored : (s.withDb db).Discreet past [] := h.insert hinsert
      refine ⟨hstored.send_public rfl hmentions fun _ _ hmem => (by cases hmem), ?_⟩
      intro answer hanswer m hm messageId hmem
      cases hanswer
      rw [List.mem_singleton.mp hm] at hmem
      exact (hmentions messageId hmem).shows user

/-- The notice of a failure. -/
theorem insertEphemeralError_ends {id errorText : String} {now : Int}
    (h : s.Discreet past (id :: drawn)) :
    (insertEphemeralError id channelId user errorText now).Ends s
      (fun r t => t.Discreet past drawn ∨ ∃ e, r = .error e ∧ t = s) := by
  unfold insertEphemeralError
  cases hinsert : insertMessage ⟨id, channelId, user, errorText, [], none, now, none, some user⟩
      s.db with
  | error e =>
      rw [Prog.Ends, Prog.run_bind_of_error (run_execute_of_error hinsert)]
      exact .inr ⟨_, rfl, rfl⟩
  | ok db =>
      rw [Prog.ends_bind_of_ok (run_execute_of_ok hinsert)]
      refine .inl ((h.insert hinsert).announce ?_ rfl ?_)
      · exact (List.nodup_cons.mp h.nodup).1
      · intro row hrow
        rw [withDb_db, find?_insertMessage hinsert] at hrow
        change (if id = id then some _ else _) = some row at hrow
        rw [if_pos rfl] at hrow
        cases hrow
        rfl

theorem reads_checkParent (replyTo : Option String) : (checkParent channelId replyTo).Reads := by
  apply Prog.reads_whenSome
  intro parentId
  apply (reads_fetch _).bind
  intro found
  cases found with
  | none => exact fun _ => rfl
  | some row => exact Prog.reads_ensure

/-- The parent of a reply is there. -/
theorem exists_of_run_checkParent {replyTo : Option String}
    (h : (checkParent channelId replyTo).run s = (.ok (), s)) :
    ∀ parentId ∈ replyTo, ∃ row, s.db.messages.find? parentId = some row ∧
      row.channelId = channelId := by
  rintro parentId ⟨rfl⟩
  rw [checkParent, Prog.whenSome, Prog.run_bind_of_ok (run_fetch _ s)] at h
  cases hfound : s.db.messages.find? parentId with
  | none =>
      rw [hfound] at h
      cases h
  | some row =>
      rw [hfound] at h
      exact ⟨row, rfl, of_run_ensure h⟩

theorem sendMessage_ends {env : SendMessageEnv} {req : SendMessageRequest}
    (h : s.Discreet past [env.slash.replyId, env.errorId, env.id])
    (hcareful : s.db.RepliesOpenly channelId req) :
    (sendMessage world.bots env user channelId req).Ends s
      (Told past user fun answer => [answer.2]) := by
  have hstop : ∀ e, Told past user (fun answer : StatusCode × MessageResponse => [answer.2])
      (.error e) s := told_error h
  unfold sendMessage
  refine (reads_userPermissions user).ends_bind hstop fun perms _ => ?_
  refine (Prog.reads_ofExcept _).ends_bind hstop fun _ _ => ?_
  refine (reads_fetch _).ends_bind hstop fun muted _ => ?_
  refine Prog.reads_ensure.ends_bind hstop fun _ _ => ?_
  refine (reads_fetch _).ends_bind hstop fun banned _ => ?_
  refine Prog.reads_ensure.ends_bind hstop fun _ _ => ?_
  refine (reads_fetch _).ends_bind hstop fun found _ => ?_
  refine Prog.reads_ensure.ends_bind hstop fun _ _ => ?_
  refine (Prog.reads_ofExcept _).ends_bind hstop fun _ _ => ?_
  refine (reads_checkParent _).ends_bind hstop fun _ hparent => ?_
  apply (dispatchSlash_ends h).bind
  · exact fun e t ht => told_error ht.1 e
  · intro failure t ht
    cases failure with
    | some errorText =>
        apply (insertEphemeralError_ends ht.1).bind
        · rintro e u (hu | ⟨_, -, rfl⟩)
          · exact told_error hu e
          · exact told_error ht.1 e
        · rintro _ u (hu | ⟨_, he, -⟩)
          · refine ⟨hu.skip, fun answer hanswer m hm messageId hmem row hrow => ?_⟩
            cases hanswer
            rw [List.mem_singleton.mp hm] at hmem
            rw [Prog.run_pure, show messageId = env.id from List.mem_singleton.mp hmem,
              (hu.unused env.id List.mem_cons_self).find?] at hrow
            cases hrow
          · cases he
    | none =>
        apply storeMessage_ends ht.1.skip
        intro parentId hmem row hrow
        rcases exists_of_run_checkParent hparent parentId hmem with ⟨old, hold, hchannel⟩
        rw [ht.2 parentId old hold] at hrow
        cases hrow
        exact hcareful parentId hmem row hold hchannel

/-! ## Editing, deleting and reacting -/

/-- An update does not change who may see a row. -/
theorem visible_updateMessage {id content : String} {now : Int} {db : Db} {messageId : String}
    {row : MessageRow} (h : row ∈ (updateMessage id content now db).messages.find? messageId) :
    ∃ old ∈ db.messages.find? messageId, old.visibleToPubkey = row.visibleToPubkey ∧
      old.replyTo = row.replyTo := by
  rw [updateMessage, Table.find?_update, Option.mem_def, Option.map_eq_some_iff] at h
  rcases h with ⟨old, hold, rfl⟩
  refine ⟨old, hold, ?_⟩
  split_ifs <;> exact ⟨rfl, rfl⟩

theorem AppState.Discreet.updateMessage (h : s.Discreet past drawn) (id content : String)
    (now : Int) : (s.withDb (updateMessage id content now s.db)).Discreet past drawn := by
  apply @AppState.Discreet.store past drawn s [] h
  intro messageId _ row hrow
  rcases visible_updateMessage hrow with ⟨old, hold, hsame, -⟩
  exact ⟨old, hold, hsame⟩

theorem public_updateMessage {id content : String} {now : Int} {db : Db} {messageId : String}
    (h : db.Public messageId) : (updateMessage id content now db).Public messageId := by
  intro row hrow
  rcases visible_updateMessage hrow with ⟨old, hold, hsame, -⟩
  rw [← hsame]
  exact h old hold

theorem reads_requireRow {Row : Type} (find : Db → Option Row) (belongs : Row → Bool)
    (missing elsewhere : ApiError) : (requireRow find belongs missing elsewhere).Reads := by
  intro s
  rw [run_requireRow]

theorem of_run_requireRow {Row : Type} {find : Db → Option Row} {belongs : Row → Bool}
    {missing elsewhere : ApiError} {row : Row}
    (h : (requireRow find belongs missing elsewhere).run s = (.ok row, s)) :
    find s.db = some row ∧ belongs row = true := by
  rw [run_requireRow] at h
  cases hfound : find s.db with
  | none =>
      rw [hfound] at h
      cases h
  | some found =>
      rw [hfound, Option.elim_some] at h
      split_ifs at h with hbelongs
      · cases h
        exact ⟨rfl, hbelongs⟩
      · cases h

theorem editMessage_ends {now : Int} {messageId : String} {req : EditMessageRequest}
    (h : s.Discreet past [])
    (hcareful : ∀ row ∈ s.db.messages.find? messageId, row.channelId = channelId →
      row.sender = user → row.visibleToPubkey = none ∧
        ∀ parentId ∈ row.replyTo, s.db.Public parentId) :
    (editMessage now user channelId messageId req).Ends s (Told past user fun m => [m]) := by
  have hstop : ∀ e, Told past user (fun m : MessageResponse => [m]) (.error e) s := told_error h
  unfold editMessage
  refine (reads_requireRow _ _ _ _).ends_bind hstop fun row hrow => ?_
  rcases of_run_requireRow hrow with ⟨hfind, hchannel⟩
  refine Prog.reads_ensure.ends_bind hstop fun _ hsender => ?_
  rcases hcareful row hfind (of_decide_eq_true hchannel) (of_run_ensure hsender) with
    ⟨hpublic, hparents⟩
  have hupdated := h.updateMessage messageId req.content now
  rw [Prog.ends_bind_of_ok (run_write _ s)]
  cases hfound : (updateMessage messageId req.content now s.db).messages.find? messageId with
  | none =>
      have hload : (loadMessage messageId).run
          (s.withDb (updateMessage messageId req.content now s.db)) =
          (.error rowNotFound, s.withDb (updateMessage messageId req.content now s.db)) := by
        rw [loadMessage, Prog.run_bind_of_ok (run_fetch _ _), withDb_db, hfound]
        rfl
      rw [Prog.Ends, Prog.run_bind_of_error hload]
      exact told_error hupdated _
  | some new =>
      rcases visible_updateMessage hfound with ⟨old, hold, -, hreply⟩
      rw [hfind] at hold
      cases hold
      have hopen : ∀ id ∈ MessageResponse.mentions (((updateMessage messageId req.content now
          s.db).joined new).response ((updateMessage messageId req.content now s.db).reactionsTo
            new.id none) (new.replyTo.bind (updateMessage messageId req.content now
              s.db).replyContext)),
          (updateMessage messageId req.content now s.db).Public id := by
        intro id hmem
        apply public_updateMessage
        rcases mem_mentions_of_replyContext rfl hmem with rfl | hmem
        · intro found hfound'
          change found ∈ s.db.messages.find? new.id at hfound'
          rw [show new.id = messageId from (Table.find?_eq_some_iff.mp hfound).2, hfind] at hfound'
          cases hfound'
          exact hpublic
        · rw [← hreply] at hmem
          exact hparents id hmem
      rw [Prog.ends_bind_of_ok (run_loadMessage hfound)]
      refine ⟨hupdated.send_public rfl hopen fun _ _ hmem => (by cases hmem), ?_⟩
      intro m hm m' hm' id hmem
      cases hm
      rw [List.mem_singleton.mp hm'] at hmem
      exact (hopen id hmem).shows user

theorem AppState.Discreet.deleteMessageRow (h : s.Discreet past drawn) (messageId : String) :
    (s.withDb (deleteMessageRow messageId s.db)).Discreet past drawn := by
  apply @AppState.Discreet.store past drawn s [] h
  intro id _ row hrow
  rw [Hub.deleteMessageRow, Table.find?_keep] at hrow
  exact ⟨row, (Option.filter_eq_some_iff.mp hrow).1, rfl⟩

theorem deleteMessage_ends {messageId : String} (h : s.Discreet past []) :
    (deleteMessage user channelId messageId).Ends s (Told past user fun _ => []) := by
  have hstop : ∀ e, Told past user (fun _ : StatusCode => []) (.error e) s := told_error h
  unfold deleteMessage
  refine (reads_requireRow _ _ _ _).ends_bind hstop fun row _ => ?_
  have hmay : (Prog.when (row.sender ≠ user) do
      let perms ← userPermissions user
      .ofExcept (perms.require manageMessages) : Handler Unit).Reads :=
    Prog.reads_when ((reads_userPermissions user).bind fun _ => Prog.reads_ofExcept _)
  refine hmay.ends_bind hstop fun _ _ => ?_
  rw [Prog.ends_bind_of_ok (run_write _ s)]
  exact ⟨(h.deleteMessageRow messageId).send_of_carried_none rfl, fun _ _ _ hm => (by cases hm)⟩

theorem messages_insertReactionOrIgnore {row : MessageReactionRow} {db db' : Db}
    (h : insertReactionOrIgnore row db = .ok db') : db'.messages = db.messages := by
  unfold insertReactionOrIgnore at h
  split at h
  · cases h
    rfl
  · split_ifs at h
    cases h
    rfl

theorem addReaction_ends {now : Int} {messageId : String} {req : ReactionRequest}
    (h : s.Discreet past []) :
    (addReaction now user channelId messageId req).Ends s (Told past user fun _ => []) := by
  have hstop : ∀ e, Told past user (fun _ : StatusCode => []) (.error e) s := told_error h
  unfold addReaction
  refine (reads_userPermissions user).ends_bind hstop fun perms _ => ?_
  refine (Prog.reads_ofExcept _).ends_bind hstop fun _ _ => ?_
  refine Prog.reads_ensure.ends_bind hstop fun _ _ => ?_
  refine (reads_requireRow _ _ _ _).ends_bind hstop fun _ _ => ?_
  cases hinsert : insertReactionOrIgnore ⟨messageId, trim req.emoji, user, now⟩ s.db with
  | error e =>
      rw [Prog.Ends, Prog.run_bind_of_error (run_execute_of_error hinsert)]
      exact hstop _
  | ok db =>
      have hstored := h.store_of_messages_eq (messages_insertReactionOrIgnore hinsert)
      rw [Prog.ends_bind_of_ok (run_execute_of_ok hinsert), Prog.ends_bind_of_ok (run_fetch _ _)]
      exact ⟨hstored.send_of_carried_none rfl, fun _ _ _ hm => (by cases hm)⟩

/-! ## Reading -/

/-- What is on a page is among the newest of the rows. -/
theorem mem_newestFirst {rows : List MessageRow} {limit : Int} {row : MessageRow}
    (h : row ∈ newestFirst rows limit) : row ∈ rows ∧ Within rows limit row := by
  unfold newestFirst at h
  have hperm := List.perm_insertionSort
    (fun a b : MessageRow => b.createdAt ≤ a.createdAt) rows.reverse
  have hsorted := List.pairwise_insertionSort
    (fun a b : MessageRow => b.createdAt ≤ a.createdAt) rows.reverse
  dsimp only at h
  generalize rows.reverse.insertionSort (fun a b : MessageRow => b.createdAt ≤ a.createdAt) = sorted
    at h hperm hsorted
  have hrows : sorted.Perm rows := hperm.trans (List.reverse_perm rows)
  split_ifs at h with hlimit
  · exact ⟨hrows.mem_iff.mp h, fun hnonneg => absurd hlimit (by omega)⟩
  · refine ⟨hrows.mem_iff.mp (List.mem_of_mem_take h), fun _ => ?_⟩
    -- The newer rows are all before the row, so they are on the page as well.
    have hsplit := hsorted
    rw [← List.take_append_drop limit.toNat sorted, List.pairwise_append] at hsplit
    have hnone : (sorted.drop limit.toNat).filter (row.createdAt < ·.createdAt) = [] := by
      rw [List.filter_eq_nil_iff]
      intro other hother
      have hle := hsplit.2.2 row h other hother
      simp [hle]
    have hlength : (rows.filter (row.createdAt < ·.createdAt)).length =
        ((sorted.take limit.toNat).filter (row.createdAt < ·.createdAt)).length := by
      rw [← (hrows.filter _).length_eq]
      nth_rewrite 1 [← List.take_append_drop limit.toNat sorted]
      rw [List.filter_append, hnone, List.append_nil]
    rw [hlength]
    calc ((sorted.take limit.toNat).filter (row.createdAt < ·.createdAt)).length
        < (sorted.take limit.toNat).length := by
          rw [List.length_filter_lt_length_iff_exists]
          exact ⟨row, h, by simp⟩
      _ ≤ limit.toNat := List.length_take_le _ _

theorem candidates_subset (db : Db) (fts : String → Except String (String → Bool))
    (channelId : String) (params : PaginationParams) {row : MessageRow}
    (h : row ∈ db.candidates fts channelId params) : row ∈ db.messages.rows := by
  unfold Db.candidates at h
  split at h
  · split at h
    · exact List.mem_of_mem_filter h
    · cases h
  · have hmem := List.mem_of_mem_filter h
    split_ifs at hmem
    · exact (List.takeWhile_subset _) hmem
    · cases hmem
  · exact List.mem_of_mem_filter h

theorem mem_messagePage {db : Db} {fts : String → Except String (String → Bool)}
    {params : PaginationParams} {rows : List MessageRow}
    (h : db.messagePage fts channelId params = .ok rows) {row : MessageRow} (hrow : row ∈ rows) :
    row ∈ db.candidates fts channelId params ∧
      Within (db.candidates fts channelId params) (min (params.limit.getD 50) 100) row := by
  unfold Db.messagePage at h
  unfold Db.candidates
  dsimp only at h
  cases hq : (params.q.map trim).filter (· ≠ "") with
  | some q =>
      rw [hq] at h
      dsimp only at h ⊢
      cases hfts : fts q with
      | error e =>
          rw [hfts] at h
          cases h
      | ok hit =>
          rw [hfts] at h
          cases h
          exact mem_newestFirst hrow
  | none =>
      rw [hq] at h
      cases hbefore : params.before with
      | some beforeId =>
          rw [hbefore] at h
          cases h
          exact mem_newestFirst hrow
      | none =>
          rw [hbefore] at h
          cases h
          exact mem_newestFirst hrow

/-- The answer about a row that the user may see, with a parent that the user may
see. -/
theorem privateTo_response {db : Db} {row : MessageRow} {replyTo : Option String}
    (hmem : row ∈ db.messages.rows) (hvisible : row.VisibleTo user)
    (hparent : ∀ parentId ∈ replyTo, db.Shows parentId user) (reactions : List ReactionSummary) :
    ((db.joined row).response reactions (replyTo.bind db.replyContext)).PrivateTo db user := by
  intro messageId hmentions
  rcases mem_mentions_of_replyContext rfl hmentions with rfl | hreply
  · intro found hfound
    change db.messages.find? row.id = some found at hfound
    rw [Table.find?_eq_some_iff.mpr ⟨hmem, rfl⟩] at hfound
    cases hfound
    exact hvisible
  · exact hparent messageId hreply

theorem getMessages_ends {params : PaginationParams} (h : s.Discreet past [])
    (hcareful : ∀ row ∈ s.db.candidates world.fts channelId params,
      Within (s.db.candidates world.fts channelId params) (min (params.limit.getD 50) 100) row →
        row.VisibleTo user ∧ ∀ parentId ∈ row.replyTo, s.db.Shows parentId user) :
    (getMessages world.fts user channelId params).Ends s (Told past user id) := by
  rw [getMessages, Prog.ends_bind_of_ok (run_fetch _ s)]
  cases hpage : s.db.messagePage world.fts channelId params with
  | error e => exact told_error h _
  | ok rows =>
      show Prog.Ends (responses user true (rows.map s.db.joined)) s _
      rw [Prog.Ends, run_responses]
      refine ⟨h, fun ms hms m hm => ?_⟩
      cases hms
      rw [id_eq, List.map_map] at hm
      rcases List.mem_map.mp hm with ⟨row, hrow, rfl⟩
      rcases mem_messagePage hpage hrow with ⟨hcandidate, hwithin⟩
      rcases hcareful row hcandidate hwithin with ⟨hvisible, hparents⟩
      exact privateTo_response (candidates_subset _ _ _ _ hcandidate) hvisible hparents _

/-! ## Components -/

theorem applyUpdate_ends {env : ComponentEnv} {messageId : String} {body : Option String}
    (h : s.Discreet past drawn) (hfound : ∃ row, s.db.messages.find? messageId = some row)
    (hpublic : s.db.Public messageId) :
    (applyUpdate env messageId channelId body).Ends s fun _ t => t.Discreet past drawn := by
  have hbroadcast : ∀ t : AppState, t.Discreet past drawn → messageId ∉ drawn →
      t.db.Public messageId →
      Prog.Ends (fetch (·.updatedMessage messageId) >>= fun updated =>
        Prog.whenSome updated (broadcastEdited channelId)) t fun _ t => t.Discreet past drawn := by
    intro t ht hnot hopen
    rw [Prog.ends_bind_of_ok (run_fetch _ t)]
    unfold Db.updatedMessage
    cases t.db.messages.find? messageId with
    | none => exact ht
    | some row =>
        apply ht.send_public rfl
        · intro id hmem
          rwa [show id = messageId from List.mem_singleton.mp hmem]
        · intro id hmem
          rwa [show id = messageId from List.mem_singleton.mp hmem]
  have hnot : messageId ∉ drawn := by
    intro hmem
    rcases hfound with ⟨row, hrow⟩
    rw [(h.unused messageId hmem).find?] at hrow
    cases hrow
  unfold applyUpdate
  cases body with
  | none => exact hbroadcast s h hnot hpublic
  | some body =>
      show Prog.Ends (write (updateMessage messageId body env.updatedAt) >>= fun _ => _) s _
      rw [Prog.ends_bind_of_ok (run_write _ s)]
      exact hbroadcast _ (h.updateMessage messageId body env.updatedAt) hnot
        (public_updateMessage hpublic)

theorem applyEphemeralReply_ends {env : ComponentEnv} {bot body : String}
    (h : s.Discreet past (env.replyId :: drawn)) :
    (applyEphemeralReply env channelId bot user body).Ends s fun _ t => t.Discreet past drawn := by
  rcases @run_writeIgnoring_insertMessage past drawn s
    ⟨env.replyId, channelId, bot, body, [], none, env.repliedAt, none, some user⟩ h with
    ⟨db, hrun, hdiscreet, -, hrow⟩
  rw [applyEphemeralReply, Prog.ends_bind_of_ok hrun, Prog.ends_bind_of_ok (run_fetch _ _)]
  exact hdiscreet.announce (List.nodup_cons.mp h.nodup).1 rfl hrow

theorem applyComponentResponse_ends {env : ComponentEnv} {response : ComponentResponse}
    {messageId bot : String} (h : s.Discreet past [env.replyId])
    (hfound : ∃ row, s.db.messages.find? messageId = some row)
    (hpublic : response.Updates → s.db.Public messageId) :
    (applyComponentResponse env response messageId channelId bot user).Ends s
      fun _ t => t.Discreet past [] := by
  have hreply : ∀ t : AppState, t.Discreet past [env.replyId] →
      Prog.Ends (Prog.whenSome response.ephemeralReply (applyEphemeralReply env channelId bot user))
      t
        fun _ t => t.Discreet past [] := by
    intro t ht
    cases response.ephemeralReply with
    | none => exact ht.skip
    | some body => exact applyEphemeralReply_ends ht
  unfold applyComponentResponse Prog.when
  split_ifs with hdefer
  · cases hupdate : response.update with
    | none => exact hreply s h
    | some body =>
        have hopen := hpublic ⟨hdefer, by simp [hupdate]⟩
        refine Prog.Ends.bind (applyUpdate_ends h hfound hopen) ?_ fun _ t ht => hreply t ht
        exact fun _ _ ht => ht.skip
  · exact h.skip

theorem dispatchComponent_ends {env : ComponentEnv} {messageId customId : String}
    {values : List String} (h : s.Discreet past [env.replyId])
    (hcareful : ∀ asked ∈ s.db.interaction messageId customId values user,
      ∀ response ∈ world.bots.component asked.1 asked.2, response.Updates →
        s.db.Public messageId) :
    (dispatchComponent world.bots env messageId customId values user).Ends s
      (fun _ t => t.Discreet past []) := by
  unfold dispatchComponent
  rw [Prog.ends_bind_of_ok (run_fetch _ s)]
  cases hrow : s.db.messages.find? messageId with
  | none => exact h.skip
  | some row =>
      show Prog.Ends (fetch _ >>= _) s _
      rw [Prog.ends_bind_of_ok (run_fetch _ s)]
      unfold Prog.when
      split_ifs with hbot
      · rw [Prog.ends_bind_of_ok (run_fetch _ s)]
        cases hurl : ((s.db.botProfiles.find? row.sender).bind (·.webhookUrl)).filter (· ≠ "") with
        | none => exact h.skip
        | some webhookUrl =>
            show Prog.Ends (fetch _ >>= _) s _
            rw [Prog.ends_bind_of_ok (run_fetch _ s)]
            split_ifs with hscope
            · rw [Prog.ends_bind_of_ok (run_fetch _ s), Prog.ends_bind_of_ok (run_fetch _ s)]
              have hasked : s.db.interaction messageId customId values user =
                  some (webhookUrl, ⟨s.db.hubUrl, row.channelId, messageId, customId, values,
                    ⟨user, s.db.displayNameOf user⟩⟩) := by
                rcases Option.filter_eq_some_iff.mp hurl with ⟨hbind, hne⟩
                rcases Option.bind_eq_some_iff.mp hbind with ⟨profile, hprofile, hwebhook⟩
                cases hsender : s.db.users.find? row.sender with
                | none => simp [hsender] at hbot
                | some sender =>
                    rw [hsender, Option.any_some] at hbot
                    simp [Db.interaction, hrow, hsender, hprofile, hwebhook, hbot, hscope,
                      of_decide_eq_true hne]
              cases hresponse : world.bots.component webhookUrl
                  ⟨s.db.hubUrl, row.channelId, messageId, customId, values,
                    ⟨user, s.db.displayNameOf user⟩⟩ with
              | none => exact h.skip
              | some response =>
                  exact applyComponentResponse_ends h ⟨row, hrow⟩
                    (hcareful _ hasked response hresponse)
            · exact h.skip
      · exact h.skip

/-! ## Alliances -/

/-- Looking for the owner of a channel changes neither the store nor what was
broadcast. -/
theorem findOwner_keeps (allianceId : String) (members : List AllianceMemberRow) :
    (findOwner world.alliance allianceId channelId members).Changes
      fun s t => t.db = s.db ∧ t.chatTx = s.chatTx := by
  have htrans : ∀ a b c : AppState, b.db = a.db ∧ b.chatTx = a.chatTx →
      c.db = b.db ∧ c.chatTx = b.chatTx → c.db = a.db ∧ c.chatTx = a.chatTx :=
    fun a b c hab hbc => ⟨hbc.1.trans hab.1, hbc.2.trans hab.2⟩
  have hrefl : ∀ a : AppState, a.db = a.db ∧ a.chatTx = a.chatTx := fun _ => ⟨rfl, rfl⟩
  have htoken : ∀ member, (fetchPeerToken world.alliance member).Changes
      fun s t => t.db = s.db ∧ t.chatTx = s.chatTx := by
    intro member
    apply Prog.Changes.bind htrans (Prog.changes_query hrefl _)
    intro token
    cases token with
    | some token => exact Prog.changes_ret hrefl _
    | none =>
        apply Prog.Changes.bind htrans (Prog.changes_query hrefl _)
        intro identity
        split
        · exact Prog.changes_ret hrefl _
        · exact Prog.Changes.bind htrans (Prog.changes_exec fun _ => ⟨rfl, rfl⟩)
            fun _ => Prog.changes_ret hrefl _
  induction members with
  | nil => exact Prog.changes_ret hrefl _
  | cons member rest ih =>
      apply Prog.Changes.bind htrans (htoken member)
      intro token
      cases token with
      | none => exact ih
      | some token =>
          dsimp only
          split
          · split_ifs
            · exact Prog.changes_ret hrefl _
            · exact ih
          · exact ih

/-- A channel of another hub: whatever is answered, nothing of this hub is told. -/
theorem findOwner_bind_ends {allianceId : String} {members : List AllianceMemberRow}
    {f : Option (String × String) → Handler A} (h : s.Discreet past [])
    (hf : ∀ owner, (f owner).Reads) :
    (findOwner world.alliance allianceId channelId members >>= f).Ends s
      fun _ t => t.Discreet past [] := by
  have hkeeps := @findOwner_keeps world channelId allianceId members s
  have hsame : ∀ t : AppState, t.db = s.db ∧ t.chatTx = s.chatTx → t.Discreet past [] := by
    rintro t ⟨hdb, htx⟩
    exact ⟨htx ▸ h.since, by rw [hdb, htx]; exact h.guards, fun _ hmem => (by cases hmem),
      List.nodup_nil⟩
  rcases hrun : (findOwner world.alliance allianceId channelId members).run s with ⟨e | owner, t⟩
  · rw [hrun] at hkeeps
    rw [Prog.Ends, Prog.run_bind_of_error hrun]
    exact hsame t hkeeps
  · rw [hrun] at hkeeps
    rw [Prog.ends_bind_of_ok hrun, Prog.Ends, hf owner t]
    exact hsame t hkeeps

theorem postAlliance_ends {env : SendMessageEnv} {allianceId : String} {req : SendMessageRequest}
    (h : s.Discreet past [env.slash.replyId, env.errorId, env.id])
    (hcareful : s.db.allianceSharedChannels.has (allianceId, channelId) = true →
      s.db.RepliesOpenly channelId req) :
    (postAllianceChannelMessage world.bots world.alliance env user allianceId channelId req).Ends s
      fun r t => t.Discreet past [] ∧
        (s.db.allianceSharedChannels.has (allianceId, channelId) = true →
          Told past user (fun answer : StatusCode × MessageResponse => [answer.2]) r t) := by
  have hnothing : s.Discreet past [] := h.skip.skip.skip
  unfold postAllianceChannelMessage
  refine (reads_userPermissions user).ends_bind
    (fun e => ⟨hnothing, fun _ => told_error h e⟩) fun perms _ => ?_
  refine (Prog.reads_ofExcept _).ends_bind
    (fun e => ⟨hnothing, fun _ => told_error h e⟩) fun _ _ => ?_
  rw [Prog.ends_bind_of_ok (run_fetch _ s)]
  split_ifs with hlocal
  · have hsent := @sendMessage_ends past s world user channelId env req h (hcareful hlocal)
    exact hsent.mono fun r t ht => ⟨ht.1, fun _ => ht⟩
  · rw [Prog.ends_bind_of_ok (Prog.run_query _ s), Prog.ends_bind_of_ok (run_fetch _ s)]
    refine (findOwner_bind_ends hnothing ?_).mono fun r t ht =>
      ⟨ht, fun hshared => absurd hshared hlocal⟩
    intro owner
    cases owner with
    | none => exact fun _ => rfl
    | some owner =>
        rcases owner with ⟨hubUrl, token⟩
        refine (reads_fetch _).bind fun displayName => (reads_fetch _).bind fun hubName => ?_
        split <;> exact fun _ => rfl

theorem readAlliance_ends {allianceId : String} (h : s.Discreet past [])
    (hcareful : s.db.allianceSharedChannels.has (allianceId, channelId) = true →
      ∀ row ∈ s.db.messages.rows.filter (·.channelId = channelId),
        Within (s.db.messages.rows.filter (·.channelId = channelId)) 50 row → row.VisibleTo user) :
    (getAllianceChannelMessages world.alliance user allianceId channelId).Ends s
      fun r t => t.Discreet past [] ∧
        (s.db.allianceSharedChannels.has (allianceId, channelId) = true →
          Told past user id r t) := by
  unfold getAllianceChannelMessages
  rw [Prog.ends_bind_of_ok (run_fetch _ s)]
  split_ifs with hlocal
  · rw [Prog.ends_bind_of_ok (run_fetch _ s), Prog.Ends, run_responses]
    refine ⟨h, fun _ => ⟨h, fun ms hms m hm => ?_⟩⟩
    cases hms
    rw [id_eq, List.map_map] at hm
    rcases List.mem_map.mp hm with ⟨row, hrow, rfl⟩
    rcases mem_newestFirst hrow with ⟨hmem, hwithin⟩
    apply privateTo_response (List.mem_of_mem_filter hmem) (hcareful hlocal row hmem hwithin)
    intro parentId hparent
    cases hparent
  · rw [Prog.ends_bind_of_ok (Prog.run_query _ s), Prog.ends_bind_of_ok (run_fetch _ s)]
    refine (findOwner_bind_ends h ?_).mono fun r t ht => ⟨ht, fun hshared => absurd hshared hlocal⟩
    intro owner
    cases owner with
    | none => exact fun _ => rfl
    | some owner =>
        rcases owner with ⟨hubUrl, token⟩
        dsimp only
        split <;> exact fun _ => rfl

end Requests

/-! ## One request -/

/-- A request that draws new ids and keeps away from ephemeral messages. -/
theorem handler_ends {request : ChatRequest} (h : s.Discreet past request.drawn)
    (hcareful : request.Careful world s.db) :
    (request.handler world).Ends s fun r t => t.Discreet past [] ∧
      (request.isLocal s.db = true → ∀ ms, r = .ok ms → ∀ m ∈ ms,
        m.PrivateTo t.db request.user) := by
  have hall : ∀ {p : Handler (List MessageResponse)} {user : String},
      p.Ends s (Told past user id) → p.Ends s fun r t => t.Discreet past [] ∧
        (request.isLocal s.db = true → ∀ ms, r = .ok ms → ∀ m ∈ ms, m.PrivateTo t.db user) :=
    fun hp => hp.mono fun r t ht => ⟨ht.1, fun _ => ht.2⟩
  cases request with
  | sendMessage env user channelId req => exact hall (told_map (sendMessage_ends h hcareful))
  | editMessage now user channelId messageId req =>
      exact hall (told_map (editMessage_ends h hcareful))
  | deleteMessage user channelId messageId => exact hall (told_map (deleteMessage_ends h))
  | getMessages user channelId params => exact hall (getMessages_ends h hcareful)
  | addReaction now user channelId messageId req => exact hall (told_map (addReaction_ends h))
  | component env messageId customId values user =>
      apply hall
      refine (dispatchComponent_ends h hcareful).bind (fun e t ht => told_error ht e) ?_
      exact fun _ t ht => ⟨ht, fun _ hms _ hm => (by cases hms; cases hm)⟩
  | postAlliance env user allianceId channelId req =>
      refine (postAlliance_ends h hcareful).bind ?_ ?_
      · exact fun e t ht => ⟨ht.1, fun _ _ hms => (by cases hms)⟩
      · intro answer t ht
        refine ⟨ht.1, fun hlocal ms hms => ?_⟩
        cases hms
        exact (ht.2 hlocal).2 answer rfl
  | readAlliance user allianceId channelId =>
      exact (readAlliance_ends h hcareful).mono fun r t ht => ⟨ht.1, fun hlocal => (ht.2 hlocal).2⟩

end Discreet

/-! ## What waits at the connections -/

/-- What waits was waiting before, or has just been broadcast. -/
theorem Sockets.chatRx_move {db : Db} {move : SocketMove} {sockets : Sockets} {conn : ℕ}
    {c : SocketConn} {entry : BroadcastEntry (ChatEvent × WsServerMessage)}
    (h : (sockets.move db move).conns conn = some c) (hentry : entry ∈ c.chatRx) :
    (∃ old, sockets.conns conn = some old ∧ entry ∈ old.chatRx) ∨
      ∃ event message, move = .broadcast event message ∧
        entry = ⟨sockets.clock, event, message⟩ := by
  have hmodify : ∀ {conn' : ℕ} {stage : SocketStage} {f : SocketConn → SocketConn},
      (sockets.modify conn' stage f).conns conn = some c → (∀ c, (f c).chatRx ⊆ c.chatRx) →
      ∃ old, sockets.conns conn = some old ∧ entry ∈ old.chatRx := by
    intro conn' stage f hc hsub
    rcases conns_modify hc with hold | ⟨old, rfl, hold, rfl⟩
    · exact ⟨c, hold, hentry⟩
    · exact ⟨old, conns_of_at? hold, hsub old hentry⟩
  cases move with
  | connect conn' publicKey instant =>
      simp only [Sockets.move] at h
      split at h
      · dsimp only at h
        split_ifs at h with hsame
        · cases h
          cases hentry
        · exact .inl ⟨c, h, hentry⟩
      · exact .inl ⟨c, h, hentry⟩
  | autoSubscribe conn' => exact .inl (hmodify h fun _ => List.Subset.refl _)
  | pushShares conn' => exact .inl (hmodify h fun _ => List.Subset.refl _)
  | subscribe conn' channelId => exact .inl (hmodify h fun _ => List.Subset.refl _)
  | unsubscribe conn' channelId => exact .inl (hmodify h fun _ => List.Subset.refl _)
  | broadcast event message =>
      rcases conns_modifyAll h with ⟨old, hold, rfl⟩
      dsimp only at hentry
      rcases mem_enqueue hentry with hentry | rfl
      · exact .inl ⟨old, hold, hentry⟩
      · exact .inr ⟨event, message, rfl, rfl⟩
  | chunk event =>
      rcases conns_modifyAll h with ⟨old, hold, rfl⟩
      exact .inl ⟨old, hold, hentry⟩
  | shares streams => exact .inl ⟨c, h, hentry⟩
  | receive conn' => exact .inl (hmodify h fun c => List.tail_subset c.chatRx)
  | receiveChunk conn' => exact .inl (hmodify h fun _ => List.Subset.refl _)
  | disconnect conn' =>
      simp only [Sockets.move] at h
      split_ifs at h
      exact .inl ⟨c, h, hentry⟩

theorem Sockets.clock_publish (db : Db) (entries : List (ChatEvent × WsServerMessage))
    (sockets : Sockets) : (sockets.publish db entries).clock = sockets.clock := by
  unfold Sockets.publish
  induction entries generalizing sockets with
  | nil => rfl
  | cons entry rest ih => exact (ih _).trans (clock_move db _ sockets)

theorem Sockets.chatRx_publish {db : Db} {entries : List (ChatEvent × WsServerMessage)}
    {sockets : Sockets} {conn : ℕ} {c : SocketConn}
    {entry : BroadcastEntry (ChatEvent × WsServerMessage)}
    (h : (sockets.publish db entries).conns conn = some c) (hentry : entry ∈ c.chatRx) :
    (∃ old, sockets.conns conn = some old ∧ entry ∈ old.chatRx) ∨
      entry.sentAt = sockets.clock ∧ entry.item ∈ entries := by
  unfold Sockets.publish at h
  induction entries generalizing sockets with
  | nil => exact .inl ⟨c, h, hentry⟩
  | cons first rest ih =>
      rcases ih h with ⟨old, hold, hin⟩ | ⟨hclock, hmem⟩
      · rcases chatRx_move hold hin with hbefore | ⟨event, message, hmove, rfl⟩
        · exact .inl hbefore
        · cases hmove
          exact .inr ⟨rfl, List.mem_cons_self⟩
      · rw [clock_move] at hclock
        exact .inr ⟨hclock, List.mem_cons_of_mem _ hmem⟩

/-- A frame that tells of a message was waiting, and is for the user. -/
theorem Sockets.chat_of_disclosure {sockets : Sockets} {move : SocketMove} {receipt : Receipt}
    {d : Disclosure} (h : receipt ∈ Sockets.frames move sockets)
    (hd : receipt.disclosure? = some d) :
    ∃ conn c, sockets.conns conn = some c ∧ ∃ event message,
      ⟨d.sentAt, event, message⟩ ∈ c.chatRx ∧ event.passes d.reader = true ∧
        message.carried = some d.message ∧ d.receivedAt = sockets.clock := by
  -- The frames about a screen share carry no message.
  have hshare : ∀ {stream : ScreenStream} {frame : SocketFrame}, frame ∈ stream.sent →
      ∀ publicKey channelId sentAt receivedAt,
        Receipt.disclosure? ⟨publicKey, channelId, frame, sentAt, receivedAt⟩ = none := by
    intro stream frame hframe publicKey channelId sentAt receivedAt
    unfold ScreenStream.sent at hframe
    rcases List.mem_cons.mp hframe with rfl | hframe
    · rfl
    · cases hinit : stream.initChunk with
      | none => simp [hinit] at hframe
      | some data =>
          rw [hinit] at hframe
          simp only [Option.elim_some, List.mem_cons, List.not_mem_nil, or_false] at hframe
          rcases hframe with rfl | rfl <;> rfl
  cases Sockets.sends_of_mem_frames h with
  | share hat hstream hsubscribed hsince hframe =>
      rw [hshare hframe] at hd
      cases hd
  | subscribed hat hstream hnew hframe =>
      rw [hshare hframe] at hd
      cases hd
  | chat hat hqueue hdelivers =>
      rcases Option.map_eq_some_iff.mp hd with ⟨m, hm, rfl⟩
      exact ⟨_, _, conns_of_at? hat, _, _, hqueue ▸ List.mem_cons_self, hdelivers.2, hm, rfl⟩
  | chunk hat hqueue hdelivers hframe =>
      unfold ScreenChunkEvent.sent at hframe
      simp only [List.mem_cons, List.not_mem_nil, or_false] at hframe
      rcases hframe with rfl | rfl
      · cases hd
      · cases hd

/-! ## Every run -/

section Runs

variable {world : ChatWorld} {app : AppState} {moves : List ChatMove}

/-- The hub after some of the moves. -/
def ChatHub.after (world : ChatWorld) (app : AppState) (moves : List ChatMove) (i : ℕ) : ChatHub :=
  runAll (ChatMove.step world) (moves.take i) (.opened app)

theorem ChatHub.after_succ {i : ℕ} (hi : i < moves.length) :
    ChatHub.after world app moves (i + 1) =
      moves[i].step world (ChatHub.after world app moves i) := by
  rw [ChatHub.after, List.take_succ_eq_append_getElem hi, runAll_append]
  rfl

theorem ChatMove.clock_step (move : ChatMove) (s : ChatHub) :
    (move.step world s).sockets.clock = s.sockets.clock + 1 := by
  cases move with
  | http request =>
      show (Sockets.publish _ _ _).clock + 1 = _
      rw [Sockets.clock_publish]
  | socket move =>
      show (if move.announces then s.sockets else s.sockets.move s.app.db move).clock + 1 = _
      split_ifs
      · rfl
      · rw [Sockets.clock_move]

theorem ChatHub.clock_after {i : ℕ} (hi : i ≤ moves.length) :
    (ChatHub.after world app moves i).sockets.clock = i := by
  induction i with
  | zero => rfl
  | succ i ih => rw [after_succ hi, ChatMove.clock_step, ih (Nat.le_of_succ_le hi)]

/-- One move. -/
theorem ChatMove.discreet_step {move : ChatMove} {s : ChatHub} (hfresh : move.Fresh s)
    (hcareful : move.Careful world s) (h : s.app.Discreet [] []) :
    (move.step world s).app.Discreet s.app.chatTx [] := by
  cases move with
  | socket move => exact ⟨List.prefix_rfl, h.guards, h.unused, h.nodup⟩
  | http request =>
      have hstart : s.app.Discreet s.app.chatTx request.drawn :=
        ⟨List.prefix_rfl, h.guards, hfresh.2, hfresh.1⟩
      exact (handler_ends hstart hcareful).1

theorem ChatHub.discreet_after
    (hfresh : Along (ChatMove.step world) ChatMove.Fresh moves (.opened app))
    (hcareful : Along (ChatMove.step world) (ChatMove.Careful world) moves (.opened app)) (i : ℕ) :
    (ChatHub.after world app moves i).app.Discreet [] [] := by
  have hboth := hfresh.and hcareful
  rw [← List.take_append_drop i moves] at hboth
  refine hboth.append.1.invariant (fun s => s.app.Discreet [] []) ?_ ?_
  · intro move s hmove h
    have hnext := move.discreet_step hmove.1 hmove.2 h
    exact ⟨List.nil_prefix, hnext.guards, hnext.unused, hnext.nodup⟩
  · exact ⟨List.nil_prefix, fun _ hentry => (by cases hentry), fun _ hmem => (by cases hmem),
      List.nodup_nil⟩

/-- The log of broadcasts only grows. -/
theorem ChatHub.chatTx_after
    (hfresh : Along (ChatMove.step world) ChatMove.Fresh moves (.opened app))
    (hcareful : Along (ChatMove.step world) (ChatMove.Careful world) moves (.opened app)) {i j : ℕ}
    (hij : i ≤ j) :
    (ChatHub.after world app moves i).app.chatTx <+:
    (ChatHub.after world app moves j).app.chatTx := by
  induction j, hij using Nat.le_induction with
  | base => exact List.prefix_rfl
  | succ j _ ih =>
      apply ih.trans
      by_cases hj : j < moves.length
      · have hfresh' := along_iff_split.mp hfresh (moves.take j) moves[j] (moves.drop (j + 1))
          (by rw [← List.drop_eq_getElem_cons hj, List.take_append_drop])
        have hcareful' := along_iff_split.mp hcareful (moves.take j) moves[j] (moves.drop (j + 1))
          (by rw [← List.drop_eq_getElem_cons hj, List.take_append_drop])
        rw [after_succ hj]
        exact (ChatMove.discreet_step hfresh' hcareful' (discreet_after hfresh hcareful j)).since
      · rw [after, after, List.take_of_length_le (by omega), List.take_of_length_le (by omega)]

/-- What waits and tells of a message has been logged with the move that sent it. -/
theorem ChatHub.logged_after {i : ℕ} (hi : i ≤ moves.length) {conn : ℕ} {c : SocketConn}
    (hc : (ChatHub.after world app moves i).sockets.conns conn = some c)
    {entry : BroadcastEntry (ChatEvent × WsServerMessage)} (hentry : entry ∈ c.chatRx)
    (hcarried : entry.item.2.carried.isSome = true) :
    entry.sentAt < i ∧
      entry.item ∈ (ChatHub.after world app moves (entry.sentAt + 1)).app.chatTx := by
  induction i generalizing conn c with
  | zero => cases hc
  | succ i ih =>
      have hclock := @clock_after world app moves i (Nat.le_of_succ_le hi)
      have hold : ∀ old, (ChatHub.after world app moves i).sockets.conns conn = some old →
          entry ∈ old.chatRx → entry.sentAt < i + 1 ∧
            entry.item ∈ (ChatHub.after world app moves (entry.sentAt + 1)).app.chatTx := by
        intro old hold hin
        rcases ih (Nat.le_of_succ_le hi) hold hin with ⟨hlt, hmem⟩
        exact ⟨Nat.lt_succ_of_lt hlt, hmem⟩
      have hsucc := @after_succ world app moves i hi
      rw [hsucc] at hc
      cases hmove : moves[i] with
      | http request =>
          rw [hmove] at hc hsucc
          change (Sockets.publish _ _ _).conns conn = some c at hc
          rcases Sockets.chatRx_publish hc hentry with ⟨old, hbefore, hin⟩ | ⟨hsent, hmem⟩
          · exact hold old hbefore hin
          · rw [hclock] at hsent
            rw [hsent, hsucc]
            exact ⟨Nat.lt_succ_self i, List.mem_of_mem_drop hmem⟩
      | socket move =>
          rw [hmove] at hc
          change (if move.announces then _ else _ : Sockets).conns conn = some c at hc
          split_ifs at hc with hannounces
          · exact hold c hc hentry
          · rcases Sockets.chatRx_move hc hentry with ⟨old, hbefore, hin⟩ |
              ⟨event, message, rfl, rfl⟩
            · exact hold old hbefore hin
            · exact absurd hcarried hannounces

/-- Ephemeral messages stay private in every run of requests and connections in
which the requests keep away from the ephemeral messages of others, and the ids that
are drawn are new. -/
theorem ephemeralPrivate_of_careful (world : ChatWorld) (app : AppState) (moves : List ChatMove)
    (hfresh : Along (ChatMove.step world) ChatMove.Fresh moves (.opened app))
    (hcareful : Along (ChatMove.step world) (ChatMove.Careful world) moves (.opened app)) :
    EphemeralPrivate world moves (.opened app) := by
  intro d hd i hsent hreceived
  rcases exists_of_mem_logAll hd with ⟨first, move, rest, rfl, hmem⟩
  have hnow : ChatHub.after world app (first ++ move :: rest) first.length =
      runAll (ChatMove.step world) first (.opened app) := by
    rw [ChatHub.after, List.take_left]
  have hlength : first.length < (first ++ move :: rest).length := by simp
  have hclock := @ChatHub.clock_after world app _ _ hlength.le
  show d.message.PrivateTo (ChatHub.after world app (first ++ move :: rest) i).app.db d.reader
  rw [← hnow] at hmem
  cases move with
  | http request =>
      rcases List.mem_map.mp hmem with ⟨m, hm, rfl⟩
      rw [hclock] at hsent hreceived
      dsimp only at hsent hreceived
      rw [show i = first.length + 1 by omega, ChatHub.after_succ hlength,
        List.getElem_append_right le_rfl]
      simp only [Nat.sub_self, List.getElem_cons_zero]
      unfold ChatRequest.answer at hm
      split_ifs at hm with hlocal
      · have hdiscreet := ChatHub.discreet_after hfresh hcareful first.length
        have hfresh' : (ChatMove.http request).Fresh _ := hfresh.append.2.1
        have hcareful' : (ChatMove.http request).Careful world _ := hcareful.append.2.1
        rw [← hnow] at hfresh' hcareful'
        have hends := @handler_ends _ _ world request
          ⟨List.prefix_rfl, hdiscreet.guards, hfresh'.2, hfresh'.1⟩ hcareful'
        cases hanswer : ((request.handler world).run
            (ChatHub.after world app (first ++ .http request :: rest) first.length).app).1 with
        | error e =>
            rw [hanswer] at hm
            cases hm
        | ok ms =>
            rw [hanswer] at hm
            exact hends.2 hlocal ms hanswer m hm
      · cases hm
  | socket move =>
      rcases List.mem_filterMap.mp hmem with ⟨receipt, hreceipt, hdisclosed⟩
      rcases Sockets.chat_of_disclosure hreceipt hdisclosed with
        ⟨conn, c, hc, event, message, hentry, hpasses, hcarried, -⟩
      rcases ChatHub.logged_after hlength.le hc hentry (by rw [hcarried]; rfl) with ⟨-, hlogged⟩
      have hgrown := ChatHub.chatTx_after hfresh hcareful (Nat.succ_le_of_lt hsent)
      exact (ChatHub.discreet_after hfresh hcareful i).guards _ (hgrown.subset hlogged) d.reader
        hpasses d.message hcarried

end Runs

/-- A bot that whispers. -/
def whisperer : ChatWorld where
  bots :=
    { slash := fun _ _ => some ⟨some "only you can read this", some true⟩
      component := fun _ _ => none
      toLowercase := id }
  alliance := lonelyHub
  fts := fun _ => .error "fts5: syntax error"

/-- A hub with a bot and two members. -/
def whisperHub : AppState where
  db := { Db.migrated with
    users := ⟨[⟨"bot", 0, 0, .approved, none, true, 0, some "Bot", .none, none⟩,
      ⟨"alice", 0, 0, .approved, none, false, 0, none, .none, none⟩,
      ⟨"bob", 0, 0, .approved, none, false, 0, none, .none, none⟩], by decide⟩
    userRoles := ⟨[⟨"alice", "builtin-everyone", 0⟩, ⟨"bob", "builtin-everyone", 0⟩], by decide⟩
    channels := .single
      ⟨"general", "general", "alice", none, false, 0, none, none, none, none, .text, 0, 0⟩
    botProfiles := .single ⟨"bot", "Bot", none, none, some "https://bot", none, "[]", 0⟩
    botCommands := .single ⟨"bot", "whisper", "", none, "hub", false, 0⟩ }

/-- The first member invokes the bot while the second is connected. -/
def aliceWhispers : List ChatMove :=
  [.socket (.connect 0 "bob" 0), .socket (.autoSubscribe 0), .socket (.pushShares 0),
    .http (.sendMessage ⟨"command", 1, 2, ⟨"hint", "whispered", 1⟩, "error", 2⟩ "alice" "general"
      ⟨"/whisper", [], none⟩),
    .socket (.receive 0), .socket (.receive 0)]

/-- The whispered message is not sent to the second member, and the first can read
it. -/
theorem aliceWhispers_ephemeralPrivate :
    EphemeralPrivate whisperer
    (aliceWhispers ++ [.http (.getMessages "alice" "general" ⟨none, none, none⟩)])
        (.opened whisperHub) ∧
      (logAll (ChatMove.step whisperer) (ChatMove.discloses whisperer)
        (aliceWhispers ++ [.http (.getMessages "alice" "general" ⟨none, none, none⟩)])
        (.opened whisperHub)).map (fun d => (d.reader, d.message.id)) =
        [("alice", "command"), ("bob", "command"), ("alice", "command"), ("alice", "whispered")] :=
  ⟨ephemeralPrivate_of_careful whisperer whisperHub _ (by decide +kernel) (by decide +kernel),
    by decide +kernel⟩

/-- The second member reads the channel. -/
theorem bobReads_not_ephemeralPrivate :
    ¬ ∀ moves, EphemeralPrivate whisperer moves (.opened whisperHub) := by
  intro h
  have hlogged : (⟨"bob",
      ⟨"whispered", "general", "bot", some "Bot", "only you can read this", 1, none,
      [], [], none, none⟩, 6, 6⟩ : Disclosure) ∈
      logAll (ChatMove.step whisperer) (ChatMove.discloses whisperer)
        (aliceWhispers ++ [.http (.getMessages "bob" "general" ⟨none, none, none⟩)])
        (.opened whisperHub) := by
    decide +kernel
  have hprivate := h _ _ hlogged 7 (by decide) (by decide) "whispered" List.mem_cons_self
  revert hprivate
  decide +kernel

end Voxply.Hub
