/-
# The audit log

What happens on a hub is published as an event: the event gets the next number
of a counter, is written to the audit log, and is pushed to the connected bots
that have subscribed to it.  A bot that was away asks for the events it has
missed; they are selected from the log.

A bot without the capability to read messages gets the first hundred characters
of a text and no attachments, on either way.
-/

import Voxply.Hub.Verify

namespace Voxply.Hub

open Voxply.Math

/-! ## Events -/

/-- What is published. -/
structure HubEvent where
  eventType : String
  actorPubkey : Option String
  targetPubkey : Option String
  channelId : Option String
  payload : Payload
  deriving DecidableEq

/-- What the surroundings supply while an event is published: the identifier of
its row and the time. -/
structure PublishEnv where
  id : String
  now : Int
  deriving DecidableEq

/-- The row that an event is written as. -/
def HubEvent.row (event : HubEvent) (env : PublishEnv) (seq : Int) : HubAuditLogRow :=
  ⟨env.id, seq, event.eventType, env.now, event.actorPubkey, event.targetPubkey, event.channelId,
    event.payload⟩

/-! ## Payloads -/

def JsonValue.asStr : JsonValue → Option String
  | .string text => some text
  | .other _ => none

/-- Put a field into an object, in place of the one of that name. -/
def insertField (name : String) (value : JsonValue) (fields : List (String × JsonValue)) :
    List (String × JsonValue) :=
  fields.filter (·.1 ≠ name) ++ [(name, value)]

/-- `s.chars().take(100).collect()`. -/
def contentPreview (text : String) : String :=
  String.ofList (text.toList.take 100)

/-- The part of `maybe_redact_message_content` that a bot without the capability
meets: `content` and `attachments` go, and a preview takes the place of a text. -/
def Payload.redact : Payload → Payload
  | .object fields =>
      let preview := ((fields.lookup "content").bind JsonValue.asStr).map contentPreview
      let rest := fields.filter fun field => field.1 ≠ "content" ∧ field.1 ≠ "attachments"
      .object (preview.elim rest fun text => insertField "content_preview" (.string text) rest)
  | payload => payload

/-- The capabilities of a bot, as far as they can be read. -/
def Db.capabilities (db : Db) (readCaps : String → Option (List String)) (bot : String) :
    List String :=
  (((db.botProfiles.find? bot).map (·.capabilities)).bind readCaps).getD []

def canReadMessageContent : String := "can_read_message_content"

/-- `event_type.starts_with("message.")`. -/
def isMessageEvent (eventType : String) : Bool :=
  "message.".toList.isPrefixOf eventType.toList

/-- The payload that a bot is shown. -/
def Db.payloadFor (db : Db) (readCaps : String → Option (List String)) (bot eventType : String)
    (payload : Payload) : Payload :=
  if isMessageEvent eventType ∧ canReadMessageContent ∉ db.capabilities readCaps bot then
    payload.redact
  else payload

/-! ## Selection -/

/-- The subscription speaks for the event: hub-wide or for its channel. -/
def BotSubscriptionRow.Covers (row : BotSubscriptionRow) (eventType : String)
    (channelId : Option String) : Prop :=
  row.eventType = eventType ∧ (row.channelId = "" ∨ row.channelId = channelId.getD "")

instance (row : BotSubscriptionRow) (eventType : String) (channelId : Option String) :
    Decidable (row.Covers eventType channelId) :=
  inferInstanceAs (Decidable (_ ∧ (_ ∨ _)))

/-- `SELECT DISTINCT bot_pubkey FROM bot_subscriptions WHERE …`. -/
def Db.subscribers (db : Db) (eventType : String) (channelId : Option String) : List String :=
  ((db.botSubscriptions.rows.filter (·.Covers eventType channelId)).map (·.botPubkey)).dedup

/-- `SELECT DISTINCT event_type FROM bot_subscriptions WHERE bot_pubkey = ?`. -/
def Db.subscribedEvents (db : Db) (bot : String) : List String :=
  ((db.botSubscriptions.rows.filter (·.botPubkey = bot)).map (·.eventType)).dedup

/-- A bot without scope rows may hear of every channel. Events without a channel
are in every scope. -/
def Db.inScope (db : Db) (bot : String) : Option String → Bool
  | none => true
  | some channelId =>
      db.botChannelScope.rows.all (·.botPubkey ≠ bot) || db.botChannelScope.has (bot, channelId)

def Db.hubUrl (db : Db) : String :=
  (db.setting "hub_url").getD "https://unknown-hub"

/-! ## Publishing -/

/-- `UPDATE hub_audit_seq SET seq = seq + 1 WHERE id = 1`. -/
def bumpSeq (db : Db) : Db :=
  { db with
    hubAuditSeq := db.hubAuditSeq.update (·.id = 1) (fun row => { row with seq := row.seq + 1 })
      fun _ => rfl }

/-- `SELECT seq FROM hub_audit_seq WHERE id = 1`. -/
def Db.auditSeq (db : Db) : Option Int :=
  (db.hubAuditSeq.find? 1).map (·.seq)

/-- `next_seq`: two statements. There is no number if the row is missing. -/
def nextSeq : Handler (Option Int) := do
  write bumpSeq
  fetch Db.auditSeq

/-- `current_seq`. -/
def currentSeq : Handler Int :=
  fetch fun db => db.auditSeq.getD 0

/-- `INSERT INTO hub_audit_log`. -/
def insertAudit (row : HubAuditLogRow) (db : Db) : Except SqlError Db :=
  match db.hubAuditLog.insert? row with
  | none => .error (.primaryKey "hub_audit_log.id")
  | some hubAuditLog => .ok { db with hubAuditLog := hubAuditLog }

/-- The capacity of a bot's queue. -/
def botQueueCapacity : ℕ := 256

/-- `tx.try_send`: a frame that does not fit is dropped. -/
def AppState.trySend (s : AppState) (conn : ℕ) (frame : HubEventFrame) : AppState :=
  if (s.botQueues conn).length < botQueueCapacity then
    { s with botQueues := fun other =>
        if other = conn then s.botQueues conn ++ [frame] else s.botQueues other }
  else s

/-- Push an event to one subscriber. -/
def pushEvent (readCaps : String → Option (List String)) (env : PublishEnv) (event : HubEvent)
    (seq : Int) (hubUrl : String) (sessions : String → Option ℕ) (bot : String) : Handler Unit :=
  match sessions bot with
  | none => pure ()
  | some conn => do
      let inScope ← fetch (·.inScope bot event.channelId)
      .when (inScope = true) do
        let payload ← fetch (·.payloadFor readCaps bot event.eventType event.payload)
        .exec (·.trySend conn ⟨seq, event.eventType, hubUrl, env.now, payload, none⟩)

/-- Push an event to all its subscribers. The sessions are locked meanwhile. -/
def pushEvents (readCaps : String → Option (List String)) (env : PublishEnv) (event : HubEvent)
    (seq : Int) : Handler Unit := do
  let hubUrl ← fetch Db.hubUrl
  let subs ← fetch (·.subscribers event.eventType event.channelId)
  .when (subs ≠ []) do
    let sessions ← .query AppState.botSessions
    .each subs (pushEvent readCaps env event seq hubUrl sessions)

/-- Write an event to the log; a failure is a value. -/
def storeEvent (row : HubAuditLogRow) : Handler Bool :=
  (do
    execute (insertAudit row)
    pure true : Handler Bool).recover fun _ => pure false

/-- `publish_hub_event`. Errors are swallowed. -/
def publishHubEvent (readCaps : String → Option (List String)) (env : PublishEnv)
    (event : HubEvent) : Handler Unit := do
  let seq ← nextSeq
  match seq with
  | none => pure ()
  | some seq => do
      let stored ← storeEvent (event.row env seq)
      .when (stored = true) (pushEvents readCaps env event seq)

/-! ## Replaying -/

/-- The window of the log that can be replayed. -/
def replayWindow : Int := 72 * 3600

/-- `SELECT seq, at FROM hub_audit_log WHERE at >= ? ORDER BY seq ASC LIMIT 1`. -/
def Db.earliestInWindow (db : Db) (windowStart : Int) : Option (Int × Int) :=
  (((db.hubAuditLog.rows.filter (windowStart ≤ ·.atTime)).insertionSort
    fun a b => a.seq ≤ b.seq).head?).map fun row => (row.seq, row.atTime)

/-- `SELECT … FROM hub_audit_log WHERE seq > ? AND at >= ? ORDER BY seq ASC`. -/
def Db.auditRowsSince (db : Db) (sinceSeq windowStart : Int) : List HubAuditLogRow :=
  (db.hubAuditLog.rows.filter fun row => sinceSeq < row.seq ∧
    windowStart ≤ row.atTime).insertionSort fun a b => a.seq ≤ b.seq

/-- What is replayed of a row: nothing, if the bot has not subscribed to events of
this type or the channel is out of its scope. -/
def Db.replayFrame (db : Db) (readCaps : String → Option (List String)) (bot : String)
    (subEvents : List String) (hubUrl : String) (row : HubAuditLogRow) : Option HubEventFrame :=
  if row.eventType ∈ subEvents ∧ db.inScope bot row.channelId = true then
    some ⟨row.seq, row.eventType, hubUrl, row.atTime,
      db.payloadFor readCaps bot row.eventType row.payloadJson,
      some ⟨row.actorPubkey, row.targetPubkey, row.channelId⟩⟩
  else none

/-- What `replay_events_for_bot` comes to: the frames to be sent, each with the row
it is made of, or that the events are gone. -/
inductive ReplayResult where
  | complete (frames : List (HubAuditLogRow × HubEventFrame))
  | unavailable (earliestSeq earliestAt : Int)
  deriving DecidableEq

/-- `replay_events_for_bot`, up to the sending of the frames. -/
def replayEventsForBot (readCaps : String → Option (List String)) (now : Int) (bot : String)
    (sinceSeq : Int) : Handler ReplayResult := do
  let earliest ← fetch (·.earliestInWindow (now - replayWindow))
  match earliest with
  | none => pure (.complete [])
  | some (earliestSeq, earliestAt) =>
      if sinceSeq < earliestSeq - 1 then pure (.unavailable earliestSeq earliestAt)
      else do
        let subEvents ← fetch (·.subscribedEvents bot)
        if subEvents = [] then pure (.complete [])
        else do
          let rows ← fetch (·.auditRowsSince sinceSeq (now - replayWindow))
          let hubUrl ← fetch Db.hubUrl
          let frames ← fetch fun db => rows.filterMap fun row =>
            (db.replayFrame readCaps bot subEvents hubUrl row).map (row, ·)
          pure (.complete frames)

end Voxply.Hub
