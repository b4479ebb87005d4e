/-
# The retry worker

Deliveries that have failed wait in the outbox.  A worker wakes up every few
seconds, reads the rows that are due, rebuilds each message from the store and
tries again.  After a failure it waits longer and longer; after the last entry
of the schedule it marks the row as bounced and leaves it alone.

There is one worker.  It looks at the outbox, makes its attempts and looks
again, while requests go on writing to the same rows.
-/

import Voxply.Hub.Dms

namespace Voxply.Hub

open Voxply.Math Voxply.Identity

/-- `BACKOFF_SECS`. -/
def backoffSecs : List Int := [10, 60, 300, 1800, 3600, 21600, 86400]

/-- The deliveries that are due, at most a hundred at a time. -/
def Db.dueDeliveries (db : Db) (now : Int) : List DmOutboxRow :=
  (db.dmOutbox.rows.filter fun row => row.bouncedAt = none ∧ row.nextAttemptAt ≤ now).take 100

/-- The message that a row and the conversation it is in stand for. -/
def DmMessageRow.federated (row : DmMessageRow) (codec : DmCodec) (convType : String)
    (members : List String) : FederatedDmRequest where
  messageId := row.id
  conversationId := row.conversationId
  convType := convType
  sender := row.sender
  members := members
  content := row.content
  attachments := parseDmAttachments codec row.attachments
  signature := row.signature
  createdAt := row.createdAt
  encryptedEnvelope := row.envelope codec

/-- `load_envelope`, in three queries. -/
def loadEnvelope (codec : DmCodec) (messageId : String) : Handler (Option FederatedDmRequest) := do
  let msg ← fetch (·.dmMessages.find? messageId)
  match msg with
  | none => pure none
  | some msg => do
      let convType ← fetch (·.convType? msg.conversationId)
      match convType with
      | none => .fail rowNotFound
      | some convType => do
          let members ← fetch fun db => (db.membersOf msg.conversationId).map (·.publicKey)
          pure (some (msg.federated codec convType members))

/-- `row.attempts as usize`. -/
def backoffIndex (attempts : Int) : ℕ :=
  (attempts % 2 ^ 64).toNat

/-- The next attempt is due after another delay. -/
def rescheduleOutbox (row : DmOutboxRow) (nextAt : Int) (error : String) : Db → Db :=
  updateOutbox row.messageId row.recipientHubUrl
    (fun old => { old with
      attempts := row.attempts + 1, nextAttemptAt := nextAt, lastError := some error })
    fun _ => rfl

/-- The delivery is given up. -/
def bounceOutbox (row : DmOutboxRow) (now : Int) (error : String) : Db → Db :=
  updateOutbox row.messageId row.recipientHubUrl
    (fun old => { old with
      attempts := row.attempts + 1, lastError := some error, bouncedAt := some now })
    fun _ => rfl

/-- What a failed retry writes. -/
def recordFailure (row : DmOutboxRow) (now : Int) (error : String) : Handler Unit :=
  if h : backoffIndex row.attempts < backoffSecs.length then
    write (rescheduleOutbox row (now + backoffSecs.get ⟨backoffIndex row.attempts, h⟩) error)
  else write (bounceOutbox row now error)

/-- The body of the loop of `tick`. A message that is gone leaves an orphan in
the outbox, which is dropped. -/
def retryDelivery (lib : Crates) (codec : DmCodec) (now : Int) (env : DeliveryEnv)
    (row : DmOutboxRow) : Handler Unit := do
  let envelope ← loadEnvelope codec row.messageId
  match envelope with
  | none => write (deleteOutbox row.messageId row.recipientHubUrl)
  | some envelope => do
      let result ← deliverFederatedDm lib env true row.recipientHubUrl envelope
      match result with
      | .ok () => write (deleteOutbox row.messageId row.recipientHubUrl)
      | .error err => recordFailure row now err

/-- What one pass over the outbox meets: the time, and the answers of the remote
hubs to its deliveries, one after the other. -/
structure TickEnv where
  now : Int
  delivery : ℕ → DeliveryEnv

/-- `tick`. -/
def tick (lib : Crates) (codec : DmCodec) (env : TickEnv) : Handler Unit := do
  let due ← fetch (·.dueDeliveries env.now)
  .each due.zipIdx fun entry => retryDelivery lib codec env.now (env.delivery entry.2) entry.1

/-- The loop of `spawn`, for a number of passes. A pass that fails is logged. -/
def dmWorker (lib : Crates) (codec : DmCodec) (ticks : List TickEnv) : Handler Unit :=
  .each ticks fun env => (tick lib codec env).recover fun _ => pure ()

end Voxply.Hub
