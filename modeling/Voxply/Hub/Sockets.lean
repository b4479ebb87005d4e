/-
# Connections

Everything that happens in a channel is broadcast to all connections, and each
connection picks out what its client is to see: the events of the channels that
the client has subscribed to.  A connection subscribes at its start to all
channels that the user is not banned from at that moment, and later to whatever
the client names.

The connections are modelled with what they hold in memory: the subscriptions and
what has been broadcast and not yet been received.  What happens in the store is
left to the module that uses them.
-/

import Voxply.Hub.Db

namespace Voxply.Hub

open Voxply.Math

/-! ## Screen shares -/

/-- A piece of a screen share. -/
structure ScreenChunkEvent where
  channelId : String
  streamId : String
  sharerPubkey : String
  seq : UInt32
  isInit : Bool
  data : List UInt8
  deriving DecidableEq

/-- A screen share in progress. -/
structure ScreenStream where
  channelId : String
  sharerPubkey : String
  streamId : String
  kind : String
  mime : String
  hasAudio : Bool
  initChunk : Option (List UInt8) := none
  startedAt : ℕ
  deriving DecidableEq

/-! ## Connections -/

/-- What waits in a broadcast channel, with the number of moves that were made
before it was sent. -/
structure BroadcastEntry (A : Type) where
  sentAt : ℕ
  item : A
  deriving DecidableEq

/-- How far a connection has got. -/
inductive SocketStage where
  /-- The broadcasts are received; the subscriptions are not loaded yet. -/
  | opening
  /-- The screen shares in progress have not been sent yet. -/
  | subscribed
  | running
  deriving DecidableEq

structure SocketConn where
  publicKey : String
  chatRxSince : ℕ
  stage : SocketStage := .opening
  subscribed : List String := []
  chatRx : List (BroadcastEntry (ChatEvent × WsServerMessage)) := []
  screenShareRx : List (BroadcastEntry ScreenChunkEvent) := []
  deriving DecidableEq

/-- The capacity of a broadcast channel. -/
def broadcastCapacity : ℕ := 256

/-- A receiver that lags loses the oldest entries. -/
def enqueue {A : Type} (queue : List A) (entry : A) : List A :=
  (queue ++ [entry]).drop (queue.length + 1 - broadcastCapacity)

/-- Whom an event of a subscribed channel is for. -/
def ChatEvent.passes (publicKey : String) : ChatEvent → Bool
  | .typing _ sender _ _ => sender ≠ publicKey
  | .new _ message => message.visibleToPubkey.elim true fun visibleTo => visibleTo = publicKey
  | .screenShareSignal _ toPubkey => toPubkey = publicKey
  | _ => true

/-- The event reaches the client. -/
def SocketConn.Delivers (c : SocketConn) (event : ChatEvent) : Prop :=
  event.channelId ∈ c.subscribed ∧ event.passes c.publicKey = true

instance decidableDelivers (c : SocketConn) (event : ChatEvent) : Decidable (c.Delivers event) :=
  inferInstanceAs (Decidable (_ ∧ _))

def SocketConn.DeliversChunk (c : SocketConn) (event : ScreenChunkEvent) : Prop :=
  event.sharerPubkey ≠ c.publicKey ∧ event.channelId ∈ c.subscribed

instance decidableDeliversChunk (c : SocketConn) (event : ScreenChunkEvent) :
    Decidable (c.DeliversChunk event) :=
  inferInstanceAs (Decidable (_ ∧ _))

/-- What is sent over a socket. -/
inductive SocketFrame where
  | text (message : WsServerMessage)
  | binary (data : List UInt8)
  deriving DecidableEq

def ScreenChunkEvent.sent (event : ScreenChunkEvent) : List SocketFrame :=
  [.text (.screenShareChunkOut event.channelId event.streamId event.sharerPubkey event.seq
      event.isInit), .binary event.data]

/-- What a client is sent that finds a screen share in progress. -/
def ScreenStream.sent (stream : ScreenStream) : List SocketFrame :=
  .text (.screenShareStarted stream.channelId stream.streamId stream.sharerPubkey stream.kind
    stream.mime stream.hasAudio) ::
    stream.initChunk.elim [] fun data =>
      [.text (.screenShareChunkOut stream.channelId stream.streamId stream.sharerPubkey 0 true),
        .binary data]

/-- `SELECT id FROM channels WHERE is_category = 0 AND id NOT IN (SELECT channel_id
FROM channel_bans WHERE target_public_key = ?)`. -/
def Db.openChannels (db : Db) (publicKey : String) : List String :=
  (db.channels.rows.filter fun row =>
    ¬ row.isCategory ∧ db.channelBans.has (row.id, publicKey) = false).map (·.id)

/-- `is_channel_banned`. -/
def Db.isChannelBanned (db : Db) (channelId publicKey : String) : Bool :=
  db.channelBans.has (channelId, publicKey)

/-! ## Moves of the connections -/

structure Sockets where
  clock : ℕ := 0
  conns : ℕ → Option SocketConn := fun _ => none
  screenShares : List ScreenStream := []

/-- A frame that a client was sent, with the channel it is about and when the event
was broadcast and received. -/
structure Receipt where
  publicKey : String
  channelId : String
  frame : SocketFrame
  sentAt : ℕ
  receivedAt : ℕ
  deriving DecidableEq

inductive SocketMove where
  | connect (conn : ℕ) (publicKey : String) (instant : ℕ)
  /-- The query for the channels. -/
  | autoSubscribe (conn : ℕ)
  /-- The screen shares in progress are sent. -/
  | pushShares (conn : ℕ)
  | subscribe (conn : ℕ) (channelId : String)
  | unsubscribe (conn : ℕ) (channelId : String)
  /-- An event is broadcast. -/
  | broadcast (event : ChatEvent) (message : WsServerMessage)
  | chunk (event : ScreenChunkEvent)
  /-- Screen shares start, end or get their first piece. -/
  | shares (streams : List ScreenStream)
  | receive (conn : ℕ)
  | receiveChunk (conn : ℕ)
  | disconnect (conn : ℕ)
  deriving DecidableEq

namespace Sockets

/-- Change one connection that is at the given stage. -/
def modify (s : Sockets) (conn : ℕ) (stage : SocketStage) (f : SocketConn → SocketConn) : Sockets :=
  { s with conns := fun other =>
      if other = conn then
        (s.conns conn).map fun c => if c.stage = stage then f c else c
      else s.conns other }

/-- Change all connections. -/
def modifyAll (s : Sockets) (f : SocketConn → SocketConn) : Sockets :=
  { s with conns := fun conn => (s.conns conn).map f }

/-- What the move of a connection does. The store is only read. -/
def move (db : Db) : SocketMove → Sockets → Sockets
  | .connect conn publicKey instant, s =>
      match s.conns conn with
      | none => { s with conns := fun other =>
          if other = conn then some ⟨publicKey, instant, .opening, [], [], []⟩ else s.conns other }
      | some _ => s
  | .autoSubscribe conn, s =>
      s.modify conn .opening fun c =>
        { c with stage := .subscribed, subscribed := db.openChannels c.publicKey }
  | .pushShares conn, s => s.modify conn .subscribed fun c => { c with stage := .running }
  | .subscribe conn channelId, s =>
      s.modify conn .running fun c => { c with subscribed := c.subscribed.insert channelId }
  | .unsubscribe conn channelId, s =>
      s.modify conn .running fun c =>
        { c with subscribed := c.subscribed.filter (· ≠ channelId) }
  | .broadcast event message, s =>
      s.modifyAll fun c => { c with chatRx := enqueue c.chatRx ⟨s.clock, (event, message)⟩ }
  | .chunk event, s =>
      s.modifyAll fun c => { c with screenShareRx := enqueue c.screenShareRx ⟨s.clock, event⟩ }
  | .shares streams, s => { s with screenShares := streams }
  | .receive conn, s => s.modify conn .running fun c => { c with chatRx := c.chatRx.tail }
  | .receiveChunk conn, s =>
      s.modify conn .running fun c => { c with screenShareRx := c.screenShareRx.tail }
  | .disconnect conn, s =>
      { s with conns := fun other => if other = conn then none else s.conns other }

/-- The connection, if it is at the given stage. -/
def at? (s : Sockets) (conn : ℕ) (stage : SocketStage) : Option SocketConn :=
  (s.conns conn).filter (·.stage = stage)

/-- The frames that a screen share in progress is announced by. -/
def announce (s : Sockets) (c : SocketConn) (stream : ScreenStream) : List Receipt :=
  stream.sent.map (⟨c.publicKey, stream.channelId, ·, s.clock, s.clock⟩)

/-- The frames that a move sends to a client. -/
def frames : SocketMove → Sockets → List Receipt
  | .pushShares conn, s =>
      match s.at? conn .subscribed with
      | none => []
      | some c =>
          (s.screenShares.filter fun stream =>
            stream.channelId ∈ c.subscribed ∧ stream.startedAt < c.chatRxSince).flatMap
            (s.announce c)
  | .subscribe conn channelId, s =>
      match s.at? conn .running with
      | none => []
      | some c =>
          if channelId ∈ c.subscribed then []
          else (s.screenShares.filter (·.channelId = channelId)).flatMap (s.announce c)
  | .receive conn, s =>
      match s.at? conn .running with
      | none => []
      | some c =>
          match c.chatRx with
          | [] => []
          | ⟨sentAt, event, message⟩ :: _ =>
              if c.Delivers event then
                [⟨c.publicKey, event.channelId, .text message, sentAt, s.clock⟩]
              else []
  | .receiveChunk conn, s =>
      match s.at? conn .running with
      | none => []
      | some c =>
          match c.screenShareRx with
          | [] => []
          | ⟨sentAt, event⟩ :: _ =>
              if c.DeliversChunk event then
                event.sent.map (⟨c.publicKey, event.channelId, ·, sentAt, s.clock⟩)
              else []
  | _, _ => []

/-- How a frame comes to be sent. -/
inductive Sends (s : Sockets) : SocketMove → Receipt → Prop
  | share {conn : ℕ} {c : SocketConn} {stream : ScreenStream} {frame : SocketFrame}
      (hat : s.at? conn .subscribed = some c) (hstream : stream ∈ s.screenShares)
      (hsubscribed : stream.channelId ∈ c.subscribed) (hsince : stream.startedAt < c.chatRxSince)
      (hframe : frame ∈ stream.sent) :
      Sends s (.pushShares conn) ⟨c.publicKey, stream.channelId, frame, s.clock, s.clock⟩
  | subscribed {conn : ℕ} {c : SocketConn} {stream : ScreenStream} {frame : SocketFrame}
      (hat : s.at? conn .running = some c) (hstream : stream ∈ s.screenShares)
      (hnew : stream.channelId ∉ c.subscribed) (hframe : frame ∈ stream.sent) :
      Sends s (.subscribe conn stream.channelId)
        ⟨c.publicKey, stream.channelId, frame, s.clock, s.clock⟩
  | chat {conn : ℕ} {c : SocketConn} {sentAt : ℕ} {event : ChatEvent} {message : WsServerMessage}
      {rest : List (BroadcastEntry (ChatEvent × WsServerMessage))}
      (hat : s.at? conn .running = some c) (hqueue : c.chatRx = ⟨sentAt, event, message⟩ :: rest)
      (hdelivers : c.Delivers event) :
      Sends s (.receive conn) ⟨c.publicKey, event.channelId, .text message, sentAt, s.clock⟩
  | chunk {conn : ℕ} {c : SocketConn} {sentAt : ℕ} {event : ScreenChunkEvent} {frame : SocketFrame}
      {rest : List (BroadcastEntry ScreenChunkEvent)}
      (hat : s.at? conn .running = some c) (hqueue : c.screenShareRx = ⟨sentAt, event⟩ :: rest)
      (hdelivers : c.DeliversChunk event) (hframe : frame ∈ event.sent) :
      Sends s (.receiveChunk conn) ⟨c.publicKey, event.channelId, frame, sentAt, s.clock⟩

theorem sends_of_mem_frames {s : Sockets} {move : SocketMove} {receipt : Receipt}
    (h : receipt ∈ frames move s) : s.Sends move receipt := by
  cases move with
  | pushShares conn =>
      simp only [frames] at h
      split at h
      · cases h
      · next c hat =>
          rcases List.mem_flatMap.mp h with ⟨stream, hstream, hmem⟩
          rcases List.mem_map.mp hmem with ⟨frame, hframe, rfl⟩
          rw [List.mem_filter, decide_eq_true_iff] at hstream
          exact .share hat hstream.1 hstream.2.1 hstream.2.2 hframe
  | subscribe conn channelId =>
      simp only [frames] at h
      split at h
      · cases h
      · next c hat =>
          split_ifs at h with hnew
          · cases h
          · rcases List.mem_flatMap.mp h with ⟨stream, hstream, hmem⟩
            rcases List.mem_map.mp hmem with ⟨frame, hframe, rfl⟩
            rw [List.mem_filter, decide_eq_true_iff] at hstream
            rcases hstream with ⟨hstream, rfl⟩
            exact .subscribed hat hstream hnew hframe
  | receive conn =>
      simp only [frames] at h
      split at h
      · cases h
      · next c hat =>
          split at h
          · cases h
          · next sentAt event message rest hqueue =>
              split_ifs at h with hdelivers
              · rw [List.mem_singleton.mp h]
                exact .chat hat hqueue hdelivers
              · cases h
  | receiveChunk conn =>
      simp only [frames] at h
      split at h
      · cases h
      · next c hat =>
          split at h
          · cases h
          · next sentAt event rest hqueue =>
              split_ifs at h with hdelivers
              · rcases List.mem_map.mp h with ⟨frame, hframe, rfl⟩
                exact .chunk hat hqueue hdelivers hframe
              · cases h
  | connect | autoSubscribe | unsubscribe | broadcast | chunk | shares | disconnect => cases h

end Sockets

end Voxply.Hub
