/-
# Messages as they are sent

The values that the chat handlers answer with, and what is broadcast about a
channel: each event goes out together with the envelope that is sent to the
clients.
-/

import Mathlib.Data.Nat.Notation

namespace Voxply.Hub

/-! ## Messages -/

structure Attachment where
  name : String
  mime : String
  dataB64 : String
  deriving DecidableEq

/-- The preview of a message that another one replies to. -/
structure ReplyContext where
  messageId : String
  sender : String
  senderName : Option String
  contentPreview : String
  deriving DecidableEq

structure ReactionSummary where
  emoji : String
  count : ℕ
  me : Bool
  deriving DecidableEq

structure MessageResponse where
  id : String
  channelId : String
  sender : String
  senderName : Option String
  content : String
  createdAt : Int
  editedAt : Option Int := none
  attachments : List Attachment := []
  reactions : List ReactionSummary := []
  replyTo : Option ReplyContext := none
  visibleToPubkey : Option String := none
  deriving DecidableEq

/-- What is broadcast about a channel. -/
inductive ChatEvent where
  | new (channelId : String) (message : MessageResponse)
  | edited (channelId : String) (message : MessageResponse)
  | deleted (channelId messageId : String)
  | reactionsUpdated (channelId messageId : String) (reactions : List ReactionSummary)
  | typing (channelId publicKey : String) (displayName : Option String) (typing : Bool)
  | screenShareStarted (channelId streamId sharerPubkey kind mime : String) (hasAudio : Bool)
  | screenShareStopped (channelId streamId sharerPubkey : String)
  | screenShareSignal (channelId toPubkey : String)
  | forum (channelId : String)
  | game (channelId : String)
  deriving DecidableEq

def ChatEvent.channelId : ChatEvent → String
  | .new channelId _ => channelId
  | .edited channelId _ => channelId
  | .deleted channelId _ => channelId
  | .reactionsUpdated channelId _ _ => channelId
  | .typing channelId _ _ _ => channelId
  | .screenShareStarted channelId _ _ _ _ _ => channelId
  | .screenShareStopped channelId _ _ => channelId
  | .screenShareSignal channelId _ => channelId
  | .forum channelId => channelId
  | .game channelId => channelId

/-- What a forum event tells. -/
structure ForumEvent where
  eventType : String
  channelId : String
  postId : String
  replyId : Option String := none
  deriving DecidableEq

/-- The envelopes about a channel, before they are serialised. -/
inductive WsServerMessage where
  | chatMessage (channelId : String) (message : MessageResponse)
  | messageEdited (channelId : String) (message : MessageResponse)
  | messageDeleted (channelId messageId : String)
  | reactionsUpdated (channelId messageId : String) (reactions : List ReactionSummary)
  | typing (channelId publicKey : String) (displayName : Option String) (typing : Bool)
  | screenShareStarted (channelId streamId sharerPubkey kind mime : String) (hasAudio : Bool)
  | screenShareChunkOut (channelId streamId sharerPubkey : String) (seq : UInt32) (isInit : Bool)
  | screenShareStopped (channelId streamId sharerPubkey : String)
  | screenShareOfferIn (channelId toPubkey streamId sdp fromPubkey : String)
  | screenShareAnswerIn (channelId toPubkey streamId sdp fromPubkey : String)
  | screenShareIceIn (channelId toPubkey streamId candidate fromPubkey : String)
  | screenShareViewerJoined (channelId streamId fromPubkey : String)
  | screenShareViewerLeft (channelId streamId fromPubkey : String)
  | forumEvent (channelId : String) (event : ForumEvent)
  | gameSessionCreated (sessionId channelId gameId hostPubkey : String)
  | gameSessionJoined (sessionId playerPubkey : String)
  | gameSessionLeft (sessionId playerPubkey : String)
  | gameStateUpdated (sessionId patch : String)
  | gameSessionEnded (sessionId : String)
  deriving DecidableEq

end Voxply.Hub
