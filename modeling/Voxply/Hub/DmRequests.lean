/-
# Requests about direct messages

Four programs work on the tables of direct messages: three kinds of requests,
and the worker that retries deliveries.  The worker reads which rows of the
outbox are due and then takes them one by one, while requests go on writing to
the same rows; a row that it attempts was due when it was read, and the worker
has not given it up since.

The schedules of these programs, and what each of them sends, are collected
here.
-/

import Voxply.Hub.DmStatements
import Voxply.Hub.DmWorker

namespace Voxply.Hub

open Voxply.Math Voxply.Identity

variable {lib : Crates} {codec : DmCodec} {past later : List (Sent AppState)}
  {sent : Sent AppState}

/-! ## Retrying -/

/-- No row under the key has been given up. -/
def Unbounced (key : String × String) (db : Db) : Prop :=
  ∀ row ∈ db.dmOutbox.rows, row.key = key → row.bouncedAt = none

/-- The statement gives up no row under the key. -/
def Spares (key : String × String) (sent : Sent AppState) : Prop :=
  Unbounced key sent.before.db → Unbounced key sent.after.db

/-- The statement reads that the row is due. -/
def ReadsDue (row : DmOutboxRow) (sent : Sent AppState) : Prop :=
  sent.statement = id ∧ ∃ now, row ∈ sent.before.db.dueDeliveries now

/-- The program has found the row due, and has not given it up since. -/
def StillDue (row : DmOutboxRow) (past : List (Sent AppState)) : Prop :=
  ∃ start read since, past = start ++ read :: since ∧ ReadsDue row read ∧
    ∀ earlier ∈ since, Spares row.key earlier

/-- The program has found the row due, and later its message gone. -/
def FoundGone (row : DmOutboxRow) (past : List (Sent AppState)) : Prop :=
  ∃ start gone since, past = start ++ gone :: since ∧ (∃ read ∈ start, ReadsDue row read) ∧
    gone.before.db.dmMessages.find? row.messageId = none

/-- What the worker sends for one row. -/
inductive RetrySent (row : DmOutboxRow) (past : List (Sent AppState)) (sent : Sent AppState) : Prop
  | aside (h : DmAside sent.before sent.after)
  | attempt (envelope : FederatedDmRequest) (hid : envelope.messageId = row.messageId)
      (hdue : StillDue row past)
      (h : sent.statement = fun s => s.noteAttempt ⟨row.recipientHubUrl, envelope, true⟩)
  | accepted (h : sent.statement = fun s => s.noteAccepted row.messageId row.recipientHubUrl)
  | dequeue (haccepted : RemoteAccepted row.messageId row.recipientHubUrl past)
      (h : sent.statement = written (deleteOutbox row.messageId row.recipientHubUrl))
  | orphan (hgone : FoundGone row past)
      (h : sent.statement = written (deleteOutbox row.messageId row.recipientHubUrl))
  | reschedule (nextAt : Int) (error : String) (hdue : ∃ read ∈ past, ReadsDue row read)
      (hindex : backoffIndex row.attempts < backoffSecs.length)
      (h : sent.statement = written (rescheduleOutbox row nextAt error))
  | bounce (now : Int) (error : String) (hdue : ∃ read ∈ past, ReadsDue row read)
      (hindex : backoffSecs.length ≤ backoffIndex row.attempts)
      (h : sent.statement = written (bounceOutbox row now error))

/-- What the worker sends. -/
inductive WorkerSent (past : List (Sent AppState)) (sent : Sent AppState) : Prop
  | aside (h : DmAside sent.before sent.after)
  | retry (row : DmOutboxRow) (h : RetrySent row past sent)

section Retry

variable {key : String × String} {row : DmOutboxRow}

theorem StillDue.found (h : StillDue row past) : ∃ read ∈ past, ReadsDue row read := by
  obtain ⟨start, read, since, rfl, hread, -⟩ := h
  exact ⟨read, by simp, hread⟩

theorem StillDue.append (h : StillDue row past) {since : List (Sent AppState)}
    (hsince : ∀ earlier ∈ since, Spares row.key earlier) : StillDue row (past ++ since) := by
  obtain ⟨start, read, since', rfl, hread, hspared⟩ := h
  refine ⟨start, read, since' ++ since, by simp, hread, fun earlier hearlier => ?_⟩
  rcases List.mem_append.mp hearlier with hearlier | hearlier
  · exact hspared earlier hearlier
  · exact hsince earlier hearlier

theorem spares_of_dmOutbox (h : sent.after.db.dmOutbox = sent.before.db.dmOutbox) :
    Spares key sent := by
  intro hunbounced
  rwa [Unbounced, h]

theorem spares_deleteOutbox {messageId hubUrl : String}
    (h : sent.statement = written (deleteOutbox messageId hubUrl)) : Spares key sent := by
  intro hunbounced other hother
  rw [Sent.after, h] at hother
  exact hunbounced other (List.mem_of_mem_filter hother)

/-- An update leaves the rows under other keys alone. -/
theorem mem_updateOutbox {messageId hubUrl : String} {f : DmOutboxRow → DmOutboxRow}
    {hkey : ∀ row, (f row).key = row.key} {db : Db} {new : DmOutboxRow}
    (h : new ∈ (updateOutbox messageId hubUrl f hkey db).dmOutbox.rows) :
    (new ∈ db.dmOutbox.rows ∧ new.key ≠ (messageId, hubUrl)) ∨
      ∃ old ∈ db.dmOutbox.rows, old.key = (messageId, hubUrl) ∧ new = f old := by
  obtain ⟨old, hold, rfl⟩ := List.mem_map.mp h
  dsimp only
  split_ifs with hold'
  · exact .inr ⟨old, hold, by simpa using hold', rfl⟩
  · exact .inl ⟨hold, by simpa using hold'⟩

theorem spares_updateOutbox {messageId hubUrl : String} {f : DmOutboxRow → DmOutboxRow}
    {hkey : ∀ row, (f row).key = row.key}
    (h : sent.statement = written (updateOutbox messageId hubUrl f hkey))
    (hf : key = (messageId, hubUrl) → ∀ row, (f row).bouncedAt = row.bouncedAt) :
    Spares key sent := by
  intro hunbounced new hnew hnewKey
  rw [Sent.after, h] at hnew
  rcases mem_updateOutbox hnew with ⟨hnew, -⟩ | ⟨old, hold, holdKey, rfl⟩
  · exact hunbounced new hnew hnewKey
  · rw [hkey old] at hnewKey
    rw [hf (hnewKey.symm.trans holdKey)]
    exact hunbounced old hold hnewKey

/-- Retrying one row gives up no other. -/
theorem RetrySent.spares (h : RetrySent row past sent) (hne : key ≠ row.key) :
    Spares key sent := by
  have hother : key = (row.messageId, row.recipientHubUrl) → False := fun heq => hne heq
  cases h with
  | aside h => exact spares_of_dmOutbox h.dmOutbox
  | attempt envelope _ _ h => exact spares_of_dmOutbox (by rw [Sent.after, h]; rfl)
  | accepted h => exact spares_of_dmOutbox (by rw [Sent.after, h]; rfl)
  | dequeue _ h => exact spares_deleteOutbox h
  | orphan _ h => exact spares_deleteOutbox h
  | reschedule nextAt error _ _ h => exact spares_updateOutbox h fun heq => (hother heq).elim
  | bounce now error _ _ h => exact spares_updateOutbox h fun heq => (hother heq).elim

theorem loadEnvelope_follows (messageId : String)
    {good : List (Sent AppState) → Sent AppState → Prop}
    (hgood : ∀ past' s, good past' ⟨id, s⟩) :
    (loadEnvelope codec messageId).Follows good
      (fun envelope past' => ∃ first since, past' = past ++ first :: since ∧
        (∀ earlier ∈ first :: since, earlier.statement = id) ∧
        (envelope = none → first.before.db.dmMessages.find? messageId = none) ∧
        ∀ found, envelope = some found → found.messageId = messageId) past := by
  apply follows_fetch_bind
  · exact fun s => hgood past s
  intro s
  cases hmsg : s.db.dmMessages.find? messageId with
  | none =>
      exact Prog.follows_ret ⟨⟨id, s⟩, [], rfl, by simp, fun _ => hmsg, fun _ h => by cases h⟩
  | some msg =>
      apply follows_fetch_bind
      · exact fun t => hgood _ t
      intro t
      cases t.db.convType? msg.conversationId with
      | none => exact Prog.follows_fail _
      | some convType =>
          apply follows_fetch_bind
          · exact fun u => hgood _ u
          intro u
          refine Prog.follows_ret ⟨⟨id, s⟩, [⟨id, t⟩, ⟨id, u⟩], by simp, by simp,
            fun h => (by cases h), fun found hfound => ?_⟩
          cases hfound
          exact (Table.find?_eq_some_iff.mp hmsg).2

theorem recordFailure_follows (now : Int) (error : String)
    (hdue : ∃ read ∈ past, ReadsDue row read) :
    (recordFailure row now error).Follows (RetrySent row) (fun _ _ => True) past := by
  unfold recordFailure
  split_ifs with hindex
  · apply follows_write
    · exact fun s => .reschedule _ error hdue hindex rfl
    · exact fun _ => trivial
  · apply follows_write
    · exact fun s => .bounce now error hdue (not_lt.mp hindex) rfl
    · exact fun _ => trivial

theorem retryDelivery_follows (now : Int) (denv : DeliveryEnv) (hdue : StillDue row past) :
    (retryDelivery lib codec now denv row).Follows (RetrySent row) (fun _ _ => True) past := by
  apply (loadEnvelope_follows row.messageId fun past' s => .aside (dmAside_id s)).bind
  rintro envelope past' - ⟨first, since, rfl, hreads, hnone, hid⟩
  cases envelope with
  | none =>
      apply follows_write
      · exact fun s => .orphan ⟨past, first, since, rfl, hdue.found, hnone rfl⟩ rfl
      · exact fun _ => trivial
  | some envelope =>
      have hid := hid envelope rfl
      -- The queries of the rebuilding have not given the row up.
      have hdue' : StillDue row (past ++ first :: since) := by
        apply hdue.append
        intro earlier hearlier
        apply spares_of_dmOutbox
        rw [Sent.after, hreads earlier hearlier]
        rfl
      apply Prog.Follows.bind
      · apply deliverFederatedDm_follows
        · exact fun s => .attempt envelope hid hdue' rfl
        · intro past'' sent _ hsent
          cases hsent with
          | aside h => exact .aside h
          | accepted h => exact .accepted (hid ▸ h)
      · intro result past'' hpast haccepted
        cases result with
        | ok _ =>
            apply follows_write
            · exact fun s => .dequeue (hid ▸ haccepted rfl) rfl
            · exact fun _ => trivial
        | error e =>
            obtain ⟨read, hread, hreads⟩ := hdue'.found
            exact recordFailure_follows now e ⟨read, hpast.subset hread, hreads⟩

theorem dueDeliveries_sublist (db : Db) (now : Int) :
    List.Sublist (db.dueDeliveries now) db.dmOutbox.rows :=
  (List.take_sublist _ _).trans List.filter_sublist

/-- One pass: the rows read at its start are retried one after the other, and
each is still due when its turn comes. -/
theorem tick_follows (env : TickEnv) :
    (tick lib codec env).Follows WorkerSent (fun _ _ => True) past := by
  apply follows_fetch_bind
  · exact fun s => .aside (dmAside_id s)
  intro s
  have hloop := @Prog.follows_each_inv AppState ApiError WorkerSent (past ++ [⟨id, s⟩])
    (DmOutboxRow × ℕ)
    (fun rest past' => (rest.map (·.1.key)).Nodup ∧ ∀ entry ∈ rest, StillDue entry.1 past')
    (s.db.dueDeliveries env.now).zipIdx
    (fun entry => retryDelivery lib codec env.now (env.delivery entry.2) entry.1) ?_ ?_
  · apply hloop.mono
    · exact fun _ _ _ h => h
    · exact fun _ _ _ _ => trivial
  · constructor
    · have hkeys : (s.db.dueDeliveries env.now).zipIdx.map (·.1.key) =
          (s.db.dueDeliveries env.now).map DmOutboxRow.key := by
        rw [← List.zipIdx_map_fst 0 (s.db.dueDeliveries env.now), List.map_map]
        simp [Function.comp_def]
      rw [hkeys]
      exact s.db.dmOutbox.nodup.sublist ((dueDeliveries_sublist s.db env.now).map _)
    · intro entry hentry
      have hrow : entry.1 ∈ s.db.dueDeliveries env.now := List.fst_mem_of_mem_zipIdx hentry
      exact ⟨past, ⟨id, s⟩, [], rfl, ⟨rfl, env.now, hrow⟩, by simp⟩
  · rintro entry rest past' - ⟨hkeys, hdue⟩
    rw [List.map_cons, List.nodup_cons] at hkeys
    have hretry : (retryDelivery lib codec env.now (env.delivery entry.2) entry.1).Follows
        (RetrySent entry.1) (fun _ _ => True) past' :=
      retryDelivery_follows env.now (env.delivery entry.2) (hdue entry List.mem_cons_self)
    have hsince : ∀ other ∈ rest, ∀ sent, (∃ past', RetrySent entry.1 past' sent) →
        Spares other.1.key sent := by
      rintro other hother sent ⟨past', hsent⟩
      apply hsent.spares
      intro heq
      exact hkeys.1 (List.mem_map.mpr ⟨other, hother, heq⟩)
    have hsent : ∀ past'' sent, past' <+: past'' → RetrySent entry.1 past'' sent →
        ∃ past', RetrySent entry.1 past' sent := fun past'' sent _ hsent => ⟨past'', hsent⟩
    apply (hretry.since hsent).mono
    · exact fun _ _ _ h => .retry entry.1 h
    · rintro _ past'' - ⟨-, since, rfl, hsent⟩
      refine ⟨hkeys.2, fun other hother => ?_⟩
      apply (hdue other (List.mem_cons_of_mem entry hother)).append
      exact fun earlier hearlier => hsince other hother earlier (hsent earlier hearlier)

theorem dmWorker_follows (ticks : List TickEnv) :
    (dmWorker lib codec ticks).Follows WorkerSent (fun _ _ => True) [] := by
  apply Prog.follows_each
  intro env _ past' _
  apply (tick_follows env).recover
  exact fun _ _ _ => Prog.follows_ret trivial

end Retry

/-! ## Requests -/

/-- The requests about direct messages, and the retry worker, which is started
once and makes its passes one after the other. -/
inductive DmRequest where
  | create (id : String) (now : Int) (user : String) (req : CreateConversationRequest)
  | send (env : SendEnv) (user conversationId : String) (req : SendDmRequest)
  | receive (now : Int) (req : FederatedDmRequest)
  | worker (ticks : List TickEnv)

inductive DmAnswer where
  | conversation (status : StatusCode) (response : ConversationResponse)
  | message (status : StatusCode) (response : DmMessageResponse)
  | received (status : StatusCode)
  | done
  deriving DecidableEq

def DmRequest.handler (lib : Crates) (codec : DmCodec) : DmRequest → Handler DmAnswer
  | .create id now user req => do
      let answer ← createConversation id now user req
      pure (.conversation answer.1 answer.2)
  | .send env user conversationId req => do
      let answer ← sendDm lib codec env user conversationId req
      pure (.message answer.1 answer.2)
  | .receive now req => do
      let status ← receiveFederatedDm lib.ed25519 codec now req
      pure (.received status)
  | .worker ticks => do
      dmWorker lib codec ticks
      pure .done

abbrev DmHistory := List (Event DmRequest AppState)

/-- What the handlers send. -/
def DmRequest.Sends (lib : Crates) (codec : DmCodec) :
    DmRequest → List (Sent AppState) → Sent AppState → Prop
  | .create newId now user req => CreateSent newId now user req
  | .send env user conversationId req => SendSent lib codec env user conversationId req
  | .receive _ req => ReceiveSent req
  | .worker _ => WorkerSent

/-- What the handlers have done when they return. -/
def DmRequest.Ensures (lib : Crates) (codec : DmCodec) :
    DmRequest → DmAnswer → List (Sent AppState) → Prop
  | .create .. => fun _ _ => True
  | .send env user conversationId req => fun _ =>
      SendDone lib codec env user conversationId req
  | .receive _ req => fun _ => ReceiveDone req
  | .worker _ => fun _ _ => True

theorem DmRequest.handler_follows (lib : Crates) (codec : DmCodec) (request : DmRequest) :
    (request.handler lib codec).Follows (request.Sends lib codec) (request.Ensures lib codec)
      [] := by
  cases request with
  | create newId now user req =>
      apply createConversation_follows.bind
      exact fun _ _ _ _ => Prog.follows_ret trivial
  | send env user conversationId req =>
      apply sendDm_follows.bind
      exact fun _ _ _ h => Prog.follows_ret h
  | receive now req =>
      apply (receiveFederatedDm_follows lib.ed25519).bind
      exact fun _ _ _ h => Prog.follows_ret h
  | worker ticks =>
      apply (dmWorker_follows ticks).bind
      exact fun _ _ _ _ => Prog.follows_ret trivial

/-- A schedule of requests about direct messages. -/
def dmServer (lib : Crates) (codec : DmCodec) (moves : List (Move DmRequest)) (s : AppState) :
    Server DmRequest AppState ApiError DmAnswer :=
  serve (DmRequest.handler lib codec) moves s

theorem dmServer_sound (lib : Crates) (codec : DmCodec) (moves : List (Move DmRequest))
    (s : AppState) :
    (dmServer lib codec moves s).Sound (DmRequest.handler lib codec) (DmRequest.Sends lib codec)
      (DmRequest.Ensures lib codec) s :=
  Server.sound_serve (DmRequest.handler_follows lib codec) moves s

end Voxply.Hub
