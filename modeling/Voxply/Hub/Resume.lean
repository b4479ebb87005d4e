/-
# Resuming

A bot that reconnects asks for the events since the last one it has seen.  The
task of its connection selects them from the audit log and puts them into the
connection's own queue, from which the same task sends to the client; events that
are published meanwhile go into this queue too.  The task empties the queue only
between two requests, so the announcement that the replay is complete overtakes
every replayed event, and a replay that fills the queue waits for itself.

What the client is told is right in runs in which a bot resumes where nothing has
been missed: no row of the log is for it, and none is about to be written under a
number that has been announced.
-/

import Mathlib.Algebra.BigOperators.Group.List.Basic
import Voxply.Hub.AuditSequence

namespace Voxply.Hub

open Voxply.Math

/-! ## The connection -/

/-- What the client of a bot is sent about events. The completion of a replay is
noted with the number that was asked for. -/
inductive ResumeFrame where
  | hubEvent (frame : HubEventFrame)
  | replayComplete (sinceSeq : Int) (replayed : ℕ) (liveFromSeq : Int)
  | replayUnavailable (earliestSeq earliestAt : Int)
  deriving DecidableEq

/-- The loop of `replay_events_for_bot`. -/
structure Replaying where
  sinceSeq : Int
  liveSeq : Int
  subEvents : List String
  hubUrl : String
  rows : List HubAuditLogRow
  replayed : ℕ
  deriving DecidableEq

/-- Where the task of a connection is: in its `select!`, or before the next
statement of a `Resume`. -/
inductive ResumeTask where
  | selecting
  /-- Before `current_seq`. -/
  | resumed (sinceSeq : Int)
  /-- Before the query for the earliest row in the window. -/
  | numbered (sinceSeq liveSeq : Int)
  /-- Before the query for the subscriptions. -/
  | available (sinceSeq liveSeq windowStart : Int)
  /-- Before the query for the rows. -/
  | subscribed (sinceSeq liveSeq windowStart : Int) (subEvents : List String)
  /-- Before the query for the URL of the hub. -/
  | selected (sinceSeq liveSeq : Int) (subEvents : List String) (rows : List HubAuditLogRow)
  | replaying (loop : Replaying)
  /-- In `tx.send`. -/
  | sending (loop : Replaying) (frame : HubEventFrame)
  /-- Before the answer is sent to the client. -/
  | answering (answer : ResumeFrame)
  deriving DecidableEq

/-- A connection of a bot among the tasks that publish events. -/
structure BotSocket where
  server : Server PublishRequest AppState ApiError Unit
  task : ResumeTask := .selecting
  isReplaying : Bool := false
  replayBuffer : List HubEventFrame := []
  received : List ResumeFrame := []

/-- A connection that has just been opened. -/
def BotSocket.opened (s : AppState) : BotSocket where
  server := .idle s

def BotSocket.app (s : BotSocket) : AppState :=
  s.server.state

def BotSocket.withApp (s : BotSocket) (app : AppState) : BotSocket :=
  { s with server := { s.server with state := app } }

def AppState.withQueue (s : AppState) (conn : ℕ) (queue : List HubEventFrame) : AppState :=
  { s with botQueues := fun other => if other = conn then queue else s.botQueues other }

/-! ## Moves -/

inductive ResumeMove where
  /-- A task that publishes starts or executes a statement. -/
  | publish (move : Move PublishRequest)
  /-- A `Resume` of the client is received. -/
  | resume (sinceSeq : Int)
  /-- The next statement of a `Resume`. -/
  | task (now : Int)
  /-- A frame is taken out of the queue. -/
  | receive
  deriving DecidableEq

section Step

variable (readCaps : String → Option (List String)) (bot : String) (conn : ℕ)

/-- The next statement of a `Resume`. `tx.send` waits while the queue is full. -/
def BotSocket.stepTask (now : Int) (s : BotSocket) : BotSocket :=
  match s.task with
  | .selecting => s
  | .resumed sinceSeq => { s with task := .numbered sinceSeq (s.app.db.auditSeq.getD 0) }
  | .numbered sinceSeq liveSeq =>
      match s.app.db.earliestInWindow (now - replayWindow) with
      | none =>
          { s with task := .answering (.replayComplete sinceSeq 0 liveSeq), isReplaying := false }
      | some (earliestSeq, earliestAt) =>
          if sinceSeq < earliestSeq - 1 then
            { s with task := .answering (.replayUnavailable earliestSeq earliestAt)
                     isReplaying := false }
          else { s with task := .available sinceSeq liveSeq (now - replayWindow) }
  | .available sinceSeq liveSeq windowStart =>
      if s.app.db.subscribedEvents bot = [] then
        { s with task := .answering (.replayComplete sinceSeq 0 liveSeq), isReplaying := false }
      else
        { s with
          task := .subscribed sinceSeq liveSeq windowStart (s.app.db.subscribedEvents bot) }
  | .subscribed sinceSeq liveSeq windowStart subEvents =>
      { s with
        task := .selected sinceSeq liveSeq subEvents
          (s.app.db.auditRowsSince sinceSeq windowStart) }
  | .selected sinceSeq liveSeq subEvents rows =>
      { s with task := .replaying ⟨sinceSeq, liveSeq, subEvents, s.app.db.hubUrl, rows, 0⟩ }
  | .replaying loop =>
      match loop.rows with
      | [] =>
          { s with
            task := .answering (.replayComplete loop.sinceSeq loop.replayed loop.liveSeq)
            isReplaying := false }
      | row :: rows =>
          match s.app.db.replayFrame readCaps bot loop.subEvents loop.hubUrl row with
          | none => { s with task := .replaying { loop with rows := rows } }
          | some frame => { s with task := .sending { loop with rows := rows } frame }
  | .sending loop frame =>
      if (s.app.botQueues conn).length < botQueueCapacity then
        { s.withApp (s.app.withQueue conn (s.app.botQueues conn ++ [frame])) with
          task := .replaying { loop with replayed := loop.replayed + 1 } }
      else s
  | .answering answer =>
      { s with
        task := .selecting
        received := s.received ++ [answer] ++ s.replayBuffer.map .hubEvent
        replayBuffer := [] }

/-- The `bot_rx` arm. -/
def BotSocket.stepReceive (s : BotSocket) : BotSocket :=
  match s.task, s.app.botQueues conn with
  | .selecting, frame :: queue =>
      let s := s.withApp (s.app.withQueue conn queue)
      if s.isReplaying then { s with replayBuffer := s.replayBuffer ++ [frame] }
      else { s with received := s.received ++ [.hubEvent frame] }
  | _, _ => s

def ResumeMove.step : ResumeMove → BotSocket → BotSocket
  | .publish move, s =>
      { s with server := Server.step (PublishRequest.handler readCaps) move s.server }
  | .resume sinceSeq, s =>
      match s.task with
      | .selecting => { s with task := .resumed sinceSeq, isReplaying := true }
      | _ => s
  | .task now, s => s.stepTask readCaps bot conn now
  | .receive, s => s.stepReceive conn

end Step

/-! ## The property -/

/-- The bot has subscribed to events of this type, and the channel is in its
scope. -/
def Db.Concerns (db : Db) (bot eventType : String) (channelId : Option String) : Prop :=
  eventType ∈ db.subscribedEvents bot ∧ db.inScope bot channelId = true

instance decidableConcerns (db : Db) (bot eventType : String) (channelId : Option String) :
    Decidable (db.Concerns bot eventType channelId) :=
  inferInstanceAs (Decidable (_ ∧ _))

/-- How many events the completed replays have announced. -/
def announced (received : List ResumeFrame) : ℕ :=
  (received.map fun frame =>
    match frame with
    | .replayComplete _ replayed _ => replayed
    | _ => 0).sum

abbrev PublishServer := Server PublishRequest AppState ApiError Unit

/-- The number that a publishing task will read, or has read and not put into the log yet. -/
def numberUnderWay (s : AppState) : List (Sent AppState) → Option Int
  | [_] => s.db.auditSeq
  | [_, read] => read.before.db.auditSeq
  | _ => none

/-- Every event for the bot that has a number in the given range has been settled:
what is still to be written gets a larger number. -/
structure Settled (bot : String) (sinceSeq liveSeq : Int) (server : PublishServer) : Prop where
  counter : ∀ n ∈ server.state.db.auditSeq, liveSeq ≤ n
  underWay : ∀ e ∈ server.history,
    server.state.db.Concerns bot e.request.event.eventType e.request.event.channelId →
    ∀ n ∈ numberUnderWay server.state (sentBy e.job server.history), liveSeq < n
  stored : ∀ row ∈ server.state.db.hubAuditLog.rows,
    server.state.db.Concerns bot row.eventType row.channelId → sinceSeq < row.seq →
      liveSeq < row.seq

instance decidableSettled (bot : String) (sinceSeq liveSeq : Int) (server : PublishServer) :
    Decidable (Settled bot sinceSeq liveSeq server) :=
  decidable_of_iff
    ((∀ n ∈ server.state.db.auditSeq, liveSeq ≤ n) ∧
      (∀ e ∈ server.history,
        server.state.db.Concerns bot e.request.event.eventType e.request.event.channelId →
        ∀ n ∈ numberUnderWay server.state (sentBy e.job server.history), liveSeq < n) ∧
      ∀ row ∈ server.state.db.hubAuditLog.rows,
        server.state.db.Concerns bot row.eventType row.channelId → sinceSeq < row.seq →
          liveSeq < row.seq)
    ⟨fun ⟨hcounter, hunderWay, hstored⟩ => ⟨hcounter, hunderWay, hstored⟩,
      fun h => ⟨h.counter, h.underWay, h.stored⟩⟩

/-- No row of the log after the given number is for the bot. -/
def BotSocket.NothingSince (bot : String) (sinceSeq : Int) (s : BotSocket) : Prop :=
  ∀ row ∈ s.app.db.hubAuditLog.rows, s.app.db.Concerns bot row.eventType row.channelId →
    row.seq ≤ sinceSeq

/-- The log no longer reaches back to the number, so that nothing is replayed. -/
def BotSocket.Unavailable (now sinceSeq : Int) (s : BotSocket) : Prop :=
  ∃ earliest ∈ s.app.db.earliestInWindow (now - replayWindow), sinceSeq < earliest.1 - 1

instance decidableNothingSince (bot : String) (sinceSeq : Int) (s : BotSocket) :
    Decidable (s.NothingSince bot sinceSeq) :=
  inferInstanceAs (Decidable (∀ row ∈ _, _ → _))

instance decidableUnavailable (now sinceSeq : Int) (s : BotSocket) :
    Decidable (s.Unavailable now sinceSeq) :=
  inferInstanceAs (Decidable (∃ earliest ∈ s.app.db.earliestInWindow (now - replayWindow), _))

/-- A `Resume` that is not told that its events are gone finds nothing to replay: up to the number
that it has read, nothing is left, and when it selects the rows, there is none. -/
def BotSocket.FindsNothing (bot : String) (now : Int) (s : BotSocket) : ResumeTask → Prop
  | .numbered sinceSeq liveSeq => s.Unavailable now sinceSeq ∨ Settled bot sinceSeq liveSeq s.server
  | .subscribed sinceSeq _ _ _ => s.NothingSince bot sinceSeq
  | _ => True

instance decidableFindsNothing (bot : String) (now : Int) (s : BotSocket) :
    ∀ task, Decidable (s.FindsNothing bot now task)
  | .numbered _ _ => inferInstanceAs (Decidable (_ ∨ _))
  | .subscribed sinceSeq _ _ _ => inferInstanceAs (Decidable (s.NothingSince bot sinceSeq))
  | .selecting | .resumed _ | .available _ _ _ | .selected _ _ _ _ | .replaying _ | .sending _ _
  | .answering _ => .isTrue trivial

def ResumeMove.Calm (bot : String) : ResumeMove → BotSocket → Prop
  | .task now, s => s.FindsNothing bot now s.task
  | _, _ => True

instance decidableCalm (bot : String) : ∀ move s, Decidable (ResumeMove.Calm bot move s)
  | .task now, s => decidableFindsNothing bot now s s.task
  | .publish _, _ => .isTrue trivial
  | .resume _, _ => .isTrue trivial
  | .receive, _ => .isTrue trivial

/-! ## Publishing leaves the selection alone -/

/-- What a statement of a publishing task does to the bots: it may append an event
to a queue. -/
structure PushesLive (sent : Sent AppState) : Prop where
  subscriptions : sent.after.db.botSubscriptions = sent.before.db.botSubscriptions
  scope : sent.after.db.botChannelScope = sent.before.db.botChannelScope
  queues : ∀ conn, sent.after.botQueues conn = sent.before.botQueues conn ∨
    ∃ frame, frame.replayed = none ∧
      sent.after.botQueues conn = sent.before.botQueues conn ++ [frame]

theorem pushesLive_id (s : AppState) : PushesLive ⟨id, s⟩ :=
  ⟨rfl, rfl, fun _ => .inl rfl⟩

theorem pushesLive_trySend (s : AppState) (conn : ℕ) {frame : HubEventFrame}
    (hframe : frame.replayed = none) : PushesLive ⟨(·.trySend conn frame), s⟩ := by
  constructor
  · rw [Sent.after_mk, trySend_db]
  · rw [Sent.after_mk, trySend_db]
  · intro other
    rw [Sent.after_mk]
    unfold AppState.trySend
    split_ifs with hroom
    · by_cases heq : other = conn
      · subst heq
        exact .inr ⟨frame, hframe, if_pos rfl⟩
      · exact .inl (if_neg heq)
    · exact .inl rfl

section Follows

variable {readCaps : String → Option (List String)} {past : List (Sent AppState)}

theorem pushEvents_pushesLive {env : PublishEnv} {event : HubEvent} {seq : Int} :
    (pushEvents readCaps env event seq).Follows (fun _ sent => PushesLive sent) (fun _ _ => True)
      past := by
  apply follows_fetch_bind pushesLive_id
  intro s
  apply follows_fetch_bind pushesLive_id
  intro s'
  apply Prog.follows_when
  · intro _
    apply Prog.follows_query_bind pushesLive_id
    intro s''
    apply Prog.follows_each
    intro bot _ past' _
    unfold pushEvent
    cases s''.botSessions bot with
    | none => exact Prog.follows_ret trivial
    | some conn =>
        apply follows_fetch_bind pushesLive_id
        intro u
        apply Prog.follows_when
        · intro _
          apply follows_fetch_bind pushesLive_id
          exact fun v w => ⟨pushesLive_trySend w conn rfl, trivial⟩
        · exact fun _ => trivial
  · exact fun _ => trivial

theorem insertAudit_pushesLive (row : HubAuditLogRow) (s : AppState) :
    PushesLive ⟨executed (insertAudit row), s⟩ := by
  rcases executed_cases (insertAudit row) s with hsame | ⟨db, hdb, hafter⟩
  · have hafter : Sent.after ⟨executed (insertAudit row), s⟩ = s := hsame
    exact ⟨by rw [hafter], by rw [hafter], fun conn => .inl (by rw [hafter])⟩
  · have hafter : Sent.after ⟨executed (insertAudit row), s⟩ = s.withDb db := hafter
    unfold insertAudit at hdb
    cases hinsert : s.db.hubAuditLog.insert? row with
    | none => simp [hinsert] at hdb
    | some hubAuditLog =>
        rw [hinsert] at hdb
        cases hdb
        exact ⟨by rw [hafter]; rfl, by rw [hafter]; rfl, fun conn => .inl (by rw [hafter]; rfl)⟩

theorem PublishRequest.handler_pushesLive (request : PublishRequest) :
    (request.handler readCaps).Follows (fun _ sent => PushesLive sent) (fun _ _ => True) [] := by
  have hnext : nextSeq.Follows (fun _ sent => PushesLive sent) (fun _ _ => True) [] := by
    apply follows_write_bind fun s => ⟨rfl, rfl, fun _ => .inl rfl⟩
    intro s
    exact Prog.follows_query pushesLive_id fun _ => trivial
  apply hnext.bind_any
  intro seq past _
  cases seq with
  | none => exact Prog.follows_ret trivial
  | some seq =>
      have hstore : (storeEvent (request.event.row request.env seq)).Follows
          (fun _ sent => PushesLive sent) (fun _ _ => True) past := by
        apply Prog.Follows.recover
        · exact follows_execute_bind (insertAudit_pushesLive _) fun s _ _ =>
            Prog.follows_ret trivial
        · exact fun e past' _ => Prog.follows_ret trivial
      apply hstore.bind_any
      intro stored past' _
      apply Prog.follows_when
      · exact fun _ => pushEvents_pushesLive
      · exact fun _ => trivial

/-- What is known of a statement of a publishing task. -/
def PublishGood (request : PublishRequest) (past : List (Sent AppState)) (sent : Sent AppState) :
    Prop :=
  PublishSent request past sent ∧ PushesLive sent

theorem PublishRequest.handler_good (request : PublishRequest) :
    (request.handler readCaps).Follows (PublishGood request) (fun _ _ => True) [] :=
  (request.handler_follows.and request.handler_pushesLive).mono (fun _ _ _ h => h)
    fun _ _ _ _ => trivial

end Follows

/-! ## Numbers that have been announced -/

section Settled

variable {readCaps : String → Option (List String)} {bot : String} {conn : ℕ}
  {sinceSeq liveSeq : Int} {server : PublishServer}

theorem subscribedEvents_congr {db db' : Db} (h : db'.botSubscriptions = db.botSubscriptions)
    (bot : String) : db'.subscribedEvents bot = db.subscribedEvents bot := by
  rw [Db.subscribedEvents, h, Db.subscribedEvents]

theorem inScope_congr {db db' : Db} (h : db'.botChannelScope = db.botChannelScope) (bot : String)
    (channelId : Option String) : db'.inScope bot channelId = db.inScope bot channelId := by
  cases channelId with
  | none => rfl
  | some channelId => rw [Db.inScope, h, Db.inScope]

theorem PushesLive.concerns {sent : Sent AppState} (h : PushesLive sent) (bot eventType : String)
    (channelId : Option String) :
    sent.after.db.Concerns bot eventType channelId ↔
      sent.before.db.Concerns bot eventType channelId := by
  rw [Db.Concerns, Db.Concerns, subscribedEvents_congr h.subscriptions, inScope_congr h.scope]

/-- The rows after a statement of a publishing task: at most one is new. -/
theorem PublishSent.rows {request : PublishRequest} {past : List (Sent AppState)}
    {sent : Sent AppState} (h : PublishSent request past sent) :
    ∀ row ∈ sent.after.db.hubAuditLog.rows, row ∈ sent.before.db.hubAuditLog.rows ∨
      ∃ bump read seq, past = [bump, read] ∧ read.before.db.auditSeq = some seq ∧
        row = request.event.row request.env seq := by
  intro row hrow
  cases h with
  | bump hpast hstatement =>
      rw [Sent.after, hstatement] at hrow
      exact .inl hrow
  | read bump hpast hstatement =>
      rw [Sent.after, hstatement] at hrow
      exact .inl hrow
  | aside hpast hseq hlog =>
      rw [hlog] at hrow
      exact .inl hrow
  | store bump read seq hpast hseq hstatement =>
      rcases executed_cases (insertAudit (request.event.row request.env seq)) sent.before with
        hsame | ⟨db, hdb, hafter⟩
      · rw [Sent.after, hstatement, hsame] at hrow
        exact .inl hrow
      · rw [Sent.after, hstatement, hafter, withDb_db, insertAudit_eq_ok hdb] at hrow
        rcases List.mem_append.mp hrow with hrow | hrow
        · exact .inl hrow
        · exact .inr ⟨bump, read, seq, hpast, hseq, List.mem_singleton.mp hrow⟩

/-- The counter only goes up, and a first statement moves it. -/
theorem PublishSent.counter {request : PublishRequest} {past : List (Sent AppState)}
    {sent : Sent AppState} (h : PublishSent request past sent) {n : Int}
    (hn : sent.after.db.auditSeq = some n) :
    (past = [] ∧ sent.before.db.auditSeq = some (n - 1)) ∨
      (past ≠ [] ∧ sent.before.db.auditSeq = some n) := by
  by_cases hpast : past = []
  · subst hpast
    rw [Sent.after, h.first, written, withDb_db, auditSeq_bumpSeq, Option.map_eq_some_iff] at hn
    rcases hn with ⟨m, hm, rfl⟩
    exact .inl ⟨rfl, by rw [hm]; simp⟩
  · rw [h.auditSeq hpast] at hn
    exact .inr ⟨hpast, hn⟩

/-- A number that is still to be put into the log is a larger one. -/
theorem Settled.lt_of_underWay (h : Settled bot sinceSeq liveSeq server)
    {e : Event PublishRequest AppState} (he : e ∈ server.history)
    (hfor : server.state.db.Concerns bot e.request.event.eventType e.request.event.channelId)
    {past : List (Sent AppState)} (hpast : sentBy e.job server.history = past) {n : Int}
    (hn : numberUnderWay server.state past = some n) : liveSeq < n :=
  h.underWay e he hfor n (hpast ▸ hn)

/-- A statement of a publishing task keeps what is settled. -/
theorem Settled.exec (h : Settled bot sinceSeq liveSeq server)
    (hattached : server.Attached PublishGood fun _ _ _ => True) {job : ℕ}
    {request : PublishRequest} {act : AppState → AppState}
    {next : AppState → Prog AppState ApiError Unit}
    (hjob : server.jobs[job]? = some (request, .step act next)) :
    Settled bot sinceSeq liveSeq ⟨act server.state,
      server.jobs.set job (request, next server.state),
      server.history ++ [⟨⟨act, server.state⟩, job, request⟩]⟩ := by
  have hgood := (hattached.follows job request _ hjob server.state).1
  rcases hgood with ⟨hsent, hlive⟩
  have hconcerns : ∀ eventType channelId, (act server.state).db.Concerns bot eventType channelId ↔
      server.state.db.Concerns bot eventType channelId := hlive.concerns bot
  have hself : sentBy job (server.history ++ [⟨⟨act, server.state⟩, job, request⟩]) =
      sentBy job server.history ++ [⟨act, server.state⟩] :=
    sentBy_snoc_self server.history ⟨⟨act, server.state⟩, job, request⟩
  have hother : ∀ job', job ≠ job' →
      sentBy job' (server.history ++ [⟨⟨act, server.state⟩, job, request⟩]) =
        sentBy job' server.history := fun job' hne => sentBy_snoc_of_ne hne
  -- An earlier event of the job that moves carries its request.
  have hrequest : ∀ e ∈ server.history, e.job = job → e.request = request := by
    intro e he hsame
    rcases hattached.known e he with ⟨p, hp⟩
    rw [hsame, hjob] at hp
    cases hp
    rfl
  have hmem : ∀ e ∈ server.history ++ [⟨⟨act, server.state⟩, job, request⟩], e.job = job →
      e.request = request := by
    intro e he hsame
    rcases List.mem_append.mp he with he | he
    · exact hrequest e he hsame
    · rw [List.mem_singleton.mp he]
  have hold : ∀ e ∈ server.history ++ [⟨⟨act, server.state⟩, job, request⟩], e.job ≠ job →
      e ∈ server.history := by
    intro e he hne
    rcases List.mem_append.mp he with he | he
    · exact he
    · rw [List.mem_singleton.mp he] at hne
      exact absurd rfl hne
  constructor
  · intro n hn
    rcases hsent.counter hn with ⟨-, hbefore⟩ | ⟨-, hbefore⟩
    · have hle := h.counter _ hbefore
      omega
    · exact h.counter n hbefore
  · intro e he hfor n hn
    rw [hconcerns] at hfor
    rcases hpast : sentBy e.job (server.history ++ [⟨⟨act, server.state⟩, job, request⟩]) with
      _ | ⟨bump, _ | ⟨read, _ | ⟨third, rest⟩⟩⟩
    · rw [hpast] at hn
      cases hn
    · replace hn : (act server.state).db.auditSeq = some n := by rwa [hpast] at hn
      by_cases hsame : e.job = job
      · -- The job has just counted up.
        rw [hsame, hself] at hpast
        have hnil : sentBy job server.history = [] := by
          cases hsentBy : sentBy job server.history with
          | nil => rfl
          | cons first rest => simp [hsentBy] at hpast
        rcases hsent.counter hn with ⟨-, hbefore⟩ | ⟨hne, -⟩
        · have hle := h.counter _ hbefore
          omega
        · exact absurd hnil hne
      · rw [hother e.job (Ne.symm hsame)] at hpast
        rcases hsent.counter hn with ⟨-, hbefore⟩ | ⟨-, hbefore⟩
        · have hlt := h.lt_of_underWay (hold e he hsame) hfor hpast hbefore
          omega
        · exact h.lt_of_underWay (hold e he hsame) hfor hpast hbefore
    · replace hn : read.before.db.auditSeq = some n := by rwa [hpast] at hn
      by_cases hsame : e.job = job
      · -- The job has just read, or read before.
        have hreq := hmem e he hsame
        rw [hsame, hself] at hpast
        cases hsentBy : sentBy job server.history with
        | nil => simp [hsentBy] at hpast
        | cons first rest =>
            cases rest with
            | nil =>
                rw [hsentBy] at hpast
                cases hpast
                have hin : bump ∈ sentBy job server.history := by simp [hsentBy]
                rcases mem_sentBy.mp hin with ⟨earlier, hearlier, hjobEq, -⟩
                rw [hreq, ← hrequest earlier hearlier hjobEq] at hfor
                rw [← hjobEq] at hsentBy
                exact h.lt_of_underWay hearlier hfor hsentBy hn
            | cons second rest => simp [hsentBy] at hpast
      · rw [hother e.job (Ne.symm hsame)] at hpast
        exact h.lt_of_underWay (hold e he hsame) hfor hpast hn
    · rw [hpast] at hn
      cases hn
  · intro row hrow hfor hlt
    rw [hconcerns] at hfor
    rcases hsent.rows row hrow with hrow | ⟨bump, read, seq, hpast, hseq, rfl⟩
    · exact h.stored row hrow hfor hlt
    · have hin : bump ∈ sentBy job server.history := by simp [hpast]
      rcases mem_sentBy.mp hin with ⟨earlier, hearlier, hjobEq, -⟩
      rw [← hrequest earlier hearlier hjobEq] at hfor
      rw [← hjobEq] at hpast
      exact h.lt_of_underWay hearlier hfor hpast hseq

theorem Settled.step (readCaps : String → Option (List String))
    (h : Settled bot sinceSeq liveSeq server)
    (hattached : server.Attached PublishGood fun _ _ _ => True) (move : Move PublishRequest) :
    Settled bot sinceSeq liveSeq (Server.step (PublishRequest.handler readCaps) move server) := by
  cases move with
  | start request => exact ⟨h.counter, h.underWay, h.stored⟩
  | exec job =>
      rcases Server.step_exec_cases (PublishRequest.handler readCaps) job server with
        heq | ⟨request, act, next, hjob, heq⟩
      · rwa [heq]
      · rw [heq]
        exact h.exec hattached hjob

/-- The connection does not touch what matters here. -/
theorem Settled.withState (h : Settled bot sinceSeq liveSeq server) (app : AppState)
    (hdb : app.db = server.state.db) :
    Settled bot sinceSeq liveSeq { server with state := app } := by
  have hnumber : ∀ past, numberUnderWay app past = numberUnderWay server.state past := by
    rintro (_ | ⟨bump, _ | ⟨read, _ | ⟨third, rest⟩⟩⟩)
    · rfl
    · exact congrArg Db.auditSeq hdb
    · rfl
    · rfl
  constructor
  · intro n hn
    exact h.counter n (hdb ▸ hn)
  · intro e he hfor n hn
    exact h.underWay e he (hdb ▸ hfor) n (hnumber _ ▸ hn)
  · intro row hrow hfor
    exact h.stored row (hdb ▸ hrow) (hdb ▸ hfor)

end Settled

/-! ## Calm runs -/

/-- Nothing was replayed, and what was announced is settled. -/
def ResumeFrame.Calm (bot : String) (server : PublishServer) : ResumeFrame → Prop
  | .hubEvent frame => frame.replayed = none
  | .replayComplete sinceSeq replayed liveFromSeq =>
      replayed = 0 ∧ Settled bot sinceSeq liveFromSeq server
  | .replayUnavailable _ _ => True

/-- The rows that were selected are not for the bot. -/
structure Unconcerned (bot : String) (server : PublishServer) (subEvents : List String)
    (rows : List HubAuditLogRow) : Prop where
  subEvents : subEvents = server.state.db.subscribedEvents bot
  rows : ∀ row ∈ rows, ¬ server.state.db.Concerns bot row.eventType row.channelId

def ResumeTask.Calm (bot : String) (server : PublishServer) : ResumeTask → Prop
  | .selecting => True
  | .resumed _ => True
  | .numbered _ _ => True
  | .available sinceSeq liveSeq _ => Settled bot sinceSeq liveSeq server
  | .subscribed sinceSeq liveSeq _ subEvents =>
      Settled bot sinceSeq liveSeq server ∧ Unconcerned bot server subEvents []
  | .selected sinceSeq liveSeq subEvents rows =>
      Settled bot sinceSeq liveSeq server ∧ Unconcerned bot server subEvents rows
  | .replaying loop =>
      Settled bot loop.sinceSeq loop.liveSeq server ∧
        Unconcerned bot server loop.subEvents loop.rows ∧ loop.replayed = 0
  | .sending _ _ => False
  | .answering answer => answer.Calm bot server

/-- The invariant. -/
structure CalmSocket (bot : String) (conn : ℕ) (s : BotSocket) : Prop where
  attached : s.server.Attached PublishGood fun _ _ _ => True
  task : s.task.Calm bot s.server
  queue : ∀ frame ∈ s.app.botQueues conn, frame.replayed = none
  buffer : s.replayBuffer = []
  replaying : s.isReplaying = true → s.task ≠ .selecting ∧ ∀ answer, s.task ≠ .answering answer
  received : ∀ frame ∈ s.received, frame.Calm bot s.server

/-- What a move of another task or of the queue keeps. -/
structure Undisturbed (bot : String) (server server' : PublishServer) : Prop where
  settled : ∀ sinceSeq liveSeq, Settled bot sinceSeq liveSeq server →
    Settled bot sinceSeq liveSeq server'
  subEvents : server'.state.db.subscribedEvents bot = server.state.db.subscribedEvents bot
  concerns : ∀ eventType channelId, server'.state.db.Concerns bot eventType channelId ↔
    server.state.db.Concerns bot eventType channelId

section Calm

variable {readCaps : String → Option (List String)} {bot : String} {conn : ℕ}
  {server server' : PublishServer} {s : BotSocket}

theorem ResumeFrame.Calm.of_undisturbed {frame : ResumeFrame} (h : frame.Calm bot server)
    (hundisturbed : Undisturbed bot server server') : frame.Calm bot server' := by
  cases frame with
  | hubEvent frame => exact h
  | replayComplete sinceSeq replayed liveFromSeq => exact ⟨h.1, hundisturbed.settled _ _ h.2⟩
  | replayUnavailable earliestSeq earliestAt => trivial

theorem Unconcerned.of_undisturbed {subEvents : List String} {rows : List HubAuditLogRow}
    (h : Unconcerned bot server subEvents rows) (hundisturbed : Undisturbed bot server server') :
    Unconcerned bot server' subEvents rows where
  subEvents := h.subEvents.trans hundisturbed.subEvents.symm
  rows row hrow hfor := h.rows row hrow ((hundisturbed.concerns _ _).mp hfor)

theorem ResumeTask.Calm.of_undisturbed {task : ResumeTask} (h : task.Calm bot server)
    (hundisturbed : Undisturbed bot server server') : task.Calm bot server' := by
  cases task with
  | selecting => trivial
  | resumed sinceSeq => trivial
  | numbered sinceSeq liveSeq => trivial
  | available sinceSeq liveSeq windowStart => exact hundisturbed.settled _ _ h
  | subscribed sinceSeq liveSeq windowStart subEvents =>
      exact ⟨hundisturbed.settled _ _ h.1, h.2.of_undisturbed hundisturbed⟩
  | selected sinceSeq liveSeq subEvents rows =>
      exact ⟨hundisturbed.settled _ _ h.1, h.2.of_undisturbed hundisturbed⟩
  | replaying loop => exact ⟨hundisturbed.settled _ _ h.1, h.2.1.of_undisturbed hundisturbed, h.2.2⟩
  | sending loop frame => exact h
  | answering answer => exact ResumeFrame.Calm.of_undisturbed h hundisturbed

theorem undisturbed_withState {app : AppState} (hdb : app.db = server.state.db) :
    Undisturbed bot server { server with state := app } where
  settled _ _ h := h.withState app hdb
  subEvents := by rw [hdb]
  concerns _ _ := by rw [hdb]

/-- What a move of the publishing tasks does to the bots. -/
theorem step_state_cases (readCaps : String → Option (List String))
    (hattached : server.Attached PublishGood fun _ _ _ => True)
    (move : Move PublishRequest) :
    (Server.step (PublishRequest.handler readCaps) move server).state = server.state ∨
      ∃ sent, PushesLive sent ∧ sent.before = server.state ∧
        sent.after = (Server.step (PublishRequest.handler readCaps) move server).state := by
  cases move with
  | start request => exact .inl rfl
  | exec job =>
      rcases Server.step_exec_cases (PublishRequest.handler readCaps) job server with
        heq | ⟨request, act, next, hjob, heq⟩
      · exact .inl (by rw [heq])
      · have hlive := (hattached.follows job request _ hjob server.state).1.2
        exact .inr ⟨⟨act, server.state⟩, hlive, rfl, by rw [heq]; rfl⟩

theorem undisturbed_step (hattached : server.Attached PublishGood fun _ _ _ => True)
    (move : Move PublishRequest) :
    Undisturbed bot server (Server.step (PublishRequest.handler readCaps) move server) := by
  have hsettled := fun sinceSeq liveSeq (h : Settled bot sinceSeq liveSeq server) =>
    h.step readCaps hattached move
  rcases step_state_cases readCaps hattached move with hsame | ⟨sent, hlive, hbefore, hafter⟩
  · exact ⟨hsettled, by rw [hsame], fun _ _ => by rw [hsame]⟩
  · refine ⟨hsettled, ?_, ?_⟩
    · rw [← hbefore, ← hafter]
      exact subscribedEvents_congr hlive.subscriptions bot
    · rw [← hbefore, ← hafter]
      exact hlive.concerns bot

/-- A publishing task puts live events into the queue. -/
theorem queue_step (hattached : server.Attached PublishGood fun _ _ _ => True)
    (hqueue : ∀ frame ∈ server.state.botQueues conn, frame.replayed = none)
    (move : Move PublishRequest) :
    ∀ frame ∈ (Server.step (PublishRequest.handler readCaps) move server).state.botQueues conn,
      frame.replayed = none := by
  rcases step_state_cases readCaps hattached move with hsame | ⟨sent, hlive, hbefore, hafter⟩
  · rwa [hsame]
  · rw [← hbefore] at hqueue
    rw [← hafter]
    rcases hlive.queues conn with hsame | ⟨new, hnew, happend⟩
    · rwa [hsame]
    · rw [happend]
      intro frame hframe
      rcases List.mem_append.mp hframe with hold | hlast
      · exact hqueue frame hold
      · rw [List.mem_singleton.mp hlast]
        exact hnew

/-! ## The moves -/

theorem CalmSocket.publish (h : CalmSocket bot conn s) (move : Move PublishRequest) :
    CalmSocket bot conn
      { s with server := Server.step (PublishRequest.handler readCaps) move s.server } where
  attached := h.attached.step PublishRequest.handler_good move
  task := h.task.of_undisturbed (undisturbed_step h.attached move)
  queue := queue_step h.attached h.queue move
  buffer := h.buffer
  replaying := h.replaying
  received frame hframe :=
    (h.received frame hframe).of_undisturbed (undisturbed_step h.attached move)

/-- The task goes on, and nothing else changes. -/
theorem CalmSocket.withTask (h : CalmSocket bot conn s) (task : ResumeTask)
    (htask : task.Calm bot s.server) {isReplaying : Bool}
    (hreplaying : isReplaying = true → task ≠ .selecting ∧ ∀ answer, task ≠ .answering answer) :
    CalmSocket bot conn { s with task := task, isReplaying := isReplaying } :=
  ⟨h.attached, htask, h.queue, h.buffer, hreplaying, h.received⟩

theorem CalmSocket.answer (h : CalmSocket bot conn s) {answer : ResumeFrame}
    (hanswer : answer.Calm bot s.server) :
    CalmSocket bot conn { s with task := .answering answer, isReplaying := false } :=
  h.withTask (.answering answer) hanswer fun hreplaying => by cases hreplaying

theorem mem_auditRowsSince {db : Db} {sinceSeq windowStart : Int} {row : HubAuditLogRow} :
    row ∈ db.auditRowsSince sinceSeq windowStart ↔
      row ∈ db.hubAuditLog.rows ∧ sinceSeq < row.seq ∧ windowStart ≤ row.atTime := by
  rw [Db.auditRowsSince, List.mem_insertionSort, List.mem_filter, decide_eq_true_iff]

theorem CalmSocket.stepTask (h : CalmSocket bot conn s) {now : Int}
    (hcalm : (ResumeMove.task now).Calm bot s) :
    CalmSocket bot conn (s.stepTask readCaps bot conn now) := by
  have htask := h.task
  unfold BotSocket.stepTask
  cases hat : s.task with
  | selecting => exact h
  | resumed sinceSeq =>
      exact h.withTask (.numbered sinceSeq _) trivial fun _ => ⟨by simp, by simp⟩
  | numbered sinceSeq liveSeq =>
      have hsettled : s.FindsNothing bot now (.numbered sinceSeq liveSeq) := hat ▸ hcalm
      dsimp only
      split
      · next hnone =>
          refine h.answer ⟨rfl, hsettled.resolve_left ?_⟩
          rintro ⟨earliest, hsome, -⟩
          rw [hnone] at hsome
          cases hsome
      · next earliestSeq earliestAt hsome =>
          split_ifs with hgone
          · exact h.answer trivial
          · refine h.withTask (.available sinceSeq liveSeq _) (hsettled.resolve_left ?_)
              fun _ => ⟨by simp, by simp⟩
            rintro ⟨earliest, hearliest, hlt⟩
            cases hsome.symm.trans hearliest
            exact hgone hlt
  | available sinceSeq liveSeq windowStart =>
      rw [hat] at htask
      dsimp only
      split_ifs
      · exact h.answer ⟨rfl, htask⟩
      · exact h.withTask (.subscribed sinceSeq liveSeq windowStart _) ⟨htask, rfl, by simp⟩
          fun _ => ⟨by simp, by simp⟩
  | subscribed sinceSeq liveSeq windowStart subEvents =>
      rw [hat] at htask
      have hnothing : s.FindsNothing bot now (.subscribed sinceSeq liveSeq windowStart subEvents) :=
        hat ▸ hcalm
      refine h.withTask (.selected sinceSeq liveSeq subEvents _) ⟨htask.1, htask.2.subEvents, ?_⟩
        fun _ => ⟨by simp, by simp⟩
      intro row hrow hfor
      have hmem := mem_auditRowsSince.mp hrow
      have hle := hnothing row hmem.1 hfor
      have hlt := hmem.2.1
      omega
  | selected sinceSeq liveSeq subEvents rows =>
      rw [hat] at htask
      exact h.withTask (.replaying ⟨sinceSeq, liveSeq, subEvents, _, rows, 0⟩)
        ⟨htask.1, htask.2, rfl⟩ fun _ => ⟨by simp, by simp⟩
  | replaying loop =>
      rw [hat] at htask
      rcases htask with ⟨hsettled, hunconcerned, hreplayed⟩
      dsimp only
      split
      · exact h.answer ⟨hreplayed, hsettled⟩
      · next row rows hrows =>
          have hskip : s.app.db.replayFrame readCaps bot loop.subEvents loop.hubUrl row = none := by
            rw [Db.replayFrame, hunconcerned.subEvents]
            exact if_neg (hunconcerned.rows row (by simp [hrows]))
          rw [hskip]
          refine h.withTask (.replaying { loop with rows := rows })
            ⟨hsettled, ⟨hunconcerned.subEvents, ?_⟩, hreplayed⟩ fun _ => ⟨by simp, by simp⟩
          intro row' hrow'
          exact hunconcerned.rows row' (by simp [hrows, hrow'])
  | sending loop frame =>
      rw [hat] at htask
      exact htask.elim
  | answering answer =>
      rw [hat] at htask
      refine ⟨h.attached, trivial, h.queue, rfl, fun hreplaying => ?_, ?_⟩
      · exact absurd hat ((h.replaying hreplaying).2 answer)
      · dsimp only
        rw [h.buffer, List.map_nil, List.append_nil]
        intro frame hframe
        rcases List.mem_append.mp hframe with hold | hlast
        · exact h.received frame hold
        · rw [List.mem_singleton.mp hlast]
          exact htask

theorem withQueue_self (app : AppState) (queue : List HubEventFrame) :
    (app.withQueue conn queue).botQueues conn = queue :=
  if_pos rfl

theorem CalmSocket.stepReceive (h : CalmSocket bot conn s) :
    CalmSocket bot conn (s.stepReceive conn) := by
  unfold BotSocket.stepReceive
  split
  · next frame queue hat hqueue =>
      have hidle : s.isReplaying = false := by
        cases hreplaying : s.isReplaying with
        | false => rfl
        | true => exact absurd hat (h.replaying hreplaying).1
      have hundisturbed : Undisturbed bot s.server
          { s.server with state := s.app.withQueue conn queue } := undisturbed_withState rfl
      have hlive : ∀ other ∈ frame :: queue, other.replayed = none := hqueue ▸ h.queue
      dsimp only [BotSocket.withApp]
      rw [hidle]
      refine ⟨h.attached.withState _, h.task.of_undisturbed hundisturbed, ?_, h.buffer, ?_, ?_⟩
      · show ∀ other ∈ (s.app.withQueue conn queue).botQueues conn, other.replayed = none
        rw [withQueue_self]
        exact fun other hother => hlive other (List.mem_cons_of_mem frame hother)
      · intro hreplaying
        cases hreplaying
      · intro other hother
        rcases List.mem_append.mp hother with hold | hlast
        · exact (h.received other hold).of_undisturbed hundisturbed
        · rw [List.mem_singleton.mp hlast]
          exact hlive frame List.mem_cons_self
  · exact h

theorem CalmSocket.step (h : CalmSocket bot conn s) {move : ResumeMove} (hcalm : move.Calm bot s) :
    CalmSocket bot conn (move.step readCaps bot conn s) := by
  cases move with
  | publish move => exact h.publish move
  | resume sinceSeq =>
      simp only [ResumeMove.step]
      split
      · exact h.withTask (.resumed sinceSeq) trivial fun _ => ⟨by simp, by simp⟩
      · exact h
  | task now => exact h.stepTask hcalm
  | receive => exact h.stepReceive

end Calm

section Blocked

variable {readCaps : String → Option (List String)} {bot : String} {conn : ℕ} {s : BotSocket}
  {loop : Replaying} {frame : HubEventFrame}

/-- The task waits to put a frame into its own queue, which is full. -/
structure BotSocket.Blocked (conn : ℕ) (loop : Replaying) (frame : HubEventFrame) (s : BotSocket) :
    Prop where
  attached : s.server.Attached PublishGood fun _ _ _ => True
  task : s.task = .sending loop frame
  full : botQueueCapacity ≤ (s.app.botQueues conn).length

/-- Nobody else empties the queue. -/
theorem BotSocket.Blocked.step (h : s.Blocked conn loop frame) (move : ResumeMove) :
    (move.step readCaps bot conn s).Blocked conn loop frame := by
  cases move with
  | publish move =>
      refine ⟨h.attached.step PublishRequest.handler_good move, h.task, ?_⟩
      show botQueueCapacity ≤
        ((Server.step (PublishRequest.handler readCaps) move s.server).state.botQueues conn).length
      rcases step_state_cases readCaps h.attached move with hsame | ⟨sent, hlive, hbefore, hafter⟩
      · rw [hsame]
        exact h.full
      · have hfull : botQueueCapacity ≤ (sent.before.botQueues conn).length := hbefore ▸ h.full
        rw [← hafter]
        rcases hlive.queues conn with hsame | ⟨new, -, happend⟩
        · rwa [hsame]
        · rw [happend, List.length_append]
          exact hfull.trans (Nat.le_add_right ..)
  | resume sinceSeq =>
      rw [ResumeMove.step, h.task]
      exact h
  | task now =>
      rw [ResumeMove.step, BotSocket.stepTask, h.task]
      dsimp only
      rw [if_neg (Nat.not_lt.mpr h.full)]
      exact h
  | receive =>
      rw [ResumeMove.step, BotSocket.stepReceive, h.task]
      exact h

theorem BotSocket.Blocked.forever (h : s.Blocked conn loop frame) (moves : List ResumeMove) :
    (runAll (ResumeMove.step readCaps bot conn) moves s).Blocked conn loop frame := by
  induction moves generalizing s with
  | nil => exact h
  | cons move rest ih => exact ih (h.step move)

/-- More rows than there is room for: the loop ends up waiting. -/
theorem exists_blocked (now : Int) (hattached : s.server.Attached PublishGood fun _ _ _ => True)
    (hat : s.task = .replaying loop)
    (hrows : ∀ row ∈ loop.rows,
      s.app.db.replayFrame readCaps bot loop.subEvents loop.hubUrl row ≠ none)
    (hroom : (s.app.botQueues conn).length ≤ botQueueCapacity)
    (hmany : botQueueCapacity < (s.app.botQueues conn).length + loop.rows.length) :
    ∃ moves loop' frame,
      (runAll (ResumeMove.step readCaps bot conn) moves s).Blocked conn loop' frame := by
  rcases loop with ⟨sinceSeq, liveSeq, subEvents, hubUrl, rows, replayed⟩
  induction rows generalizing s replayed with
  | nil =>
      rw [List.length_nil] at hmany
      omega
  | cons row rows ih =>
      cases hframe : s.app.db.replayFrame readCaps bot subEvents hubUrl row with
      | none => exact absurd hframe (hrows row List.mem_cons_self)
      | some frame =>
          have hsending : (ResumeMove.task now).step readCaps bot conn s =
              { s with
                task := .sending ⟨sinceSeq, liveSeq, subEvents, hubUrl, rows, replayed⟩
                  frame } := by
            rw [ResumeMove.step, BotSocket.stepTask, hat]
            dsimp only
            rw [hframe]
          by_cases hfull : (s.app.botQueues conn).length < botQueueCapacity
          · -- The frame fits, and the loop goes on with one row less.
            let next : BotSocket :=
              { s.withApp (s.app.withQueue conn (s.app.botQueues conn ++ [frame])) with
                task := .replaying ⟨sinceSeq, liveSeq, subEvents, hubUrl, rows, replayed + 1⟩ }
            have hnext : runAll (ResumeMove.step readCaps bot conn) [.task now, .task now] s =
                next := by
              rw [runAll, hsending, runAll, runAll, ResumeMove.step, BotSocket.stepTask]
              exact if_pos hfull
            have hlength : (next.app.botQueues conn).length =
                (s.app.botQueues conn).length + 1 := by
              show ((s.app.withQueue conn _).botQueues conn).length = _
              rw [withQueue_self, List.length_append, List.length_singleton]
            rw [List.length_cons] at hmany
            have hblocked := @ih next (hattached.withState _) (by omega) (replayed + 1) rfl
              (fun row' hrow' => hrows row' (List.mem_cons_of_mem row hrow'))
              (by dsimp only; omega)
            rcases hblocked with ⟨moves, loop', frame', hblocked⟩
            refine ⟨[.task now, .task now] ++ moves, loop', frame', ?_⟩
            rw [runAll_append, hnext]
            exact hblocked
          · refine ⟨[.task now], ⟨sinceSeq, liveSeq, subEvents, hubUrl, rows, replayed⟩, frame, ?_⟩
            rw [runAll, hsending]
            exact ⟨hattached, rfl, Nat.not_lt.mp hfull⟩

end Blocked

end Voxply.Hub
