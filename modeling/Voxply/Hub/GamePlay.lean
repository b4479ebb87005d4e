/-
# Playing games

A session is created in the store and then entered in memory, where its players are
kept; it is marked as ended in the store and then dropped from memory.  In between,
players join it and the host patches its state, and nothing keeps requests from coming in
between any two statements.

What there is of a session is a view of the state.  Each statement does one of a few
things to it, and only in its place: what makes a job halfway through is followed by what
completes it.
-/

import Voxply.Hub.GameSessions

namespace Voxply.Hub

open Voxply.Math

/-! ## Creating, joining and looking -/

def startGame : String := "start_game"

/-- What a request to create a session draws and finds outside of the state: the new id,
the time, and whether the game is in `hub_games`. -/
structure CreateSessionEnv where
  sessionId : String
  now : String
  installed : Bool
  deriving DecidableEq

structure SessionResponse where
  id : String
  channelId : String
  gameId : String
  hostPubkey : String
  players : List String
  stateJson : Payload
  createdAt : String
  endedAt : Option String
  deriving DecidableEq

def insertGameSession (row : GameSessionRow) (db : Db) : Except SqlError Db :=
  match db.gameSessions.insert? row with
  | none => .error (.primaryKey "game_sessions.id")
  | some gameSessions => .ok { db with gameSessions := gameSessions }

def CreateSessionEnv.row (env : CreateSessionEnv) (user channelId gameId : String) :
    GameSessionRow where
  id := env.sessionId
  channelId := channelId
  gameId := gameId
  hostPubkey := user
  stateJson := "\x7b\x7d"
  createdAt := env.now

/-- The session of a new row, as it is entered in memory. -/
def GameSessionRow.entry (row : GameSessionRow) : GameSessionState where
  id := row.id
  channelId := row.channelId
  gameId := row.gameId
  hostPubkey := row.hostPubkey
  players := [row.hostPubkey]
  inMemoryState := .object []

def enterSession (session : GameSessionState) (s : AppState) : AppState :=
  { s with
    activeGameSessions := fun id =>
      if id = session.id then some session else s.activeGameSessions id }

/-- Insert into the set of players. -/
def insertPlayer (user : String) (players : List String) : List String :=
  if user ∈ players then players else players ++ [user]

def addPlayer (sessionId user : String) (s : AppState) : AppState :=
  { s with
    activeGameSessions := fun id =>
      if id = sessionId then
        (s.activeGameSessions id).map fun session =>
          { session with players := insertPlayer user session.players }
      else s.activeGameSessions id }

def createSession (env : CreateSessionEnv) (user channelId gameId : String) :
    Handler SessionResponse := do
  let perms ← userPermissions user
  .ofExcept (perms.require startGame)
  let installed ← fetch fun _ => env.installed
  .ensure (installed = true) ⟨.notFound, "Game not found on this hub"⟩
  let known ← fetch (·.channels.has channelId)
  .ensure (known = true) ⟨.notFound, "Channel not found"⟩
  let row := env.row user channelId gameId
  execute (insertGameSession row)
  .exec (enterSession row.entry)
  broadcastGameEvent channelId (.gameSessionCreated env.sessionId channelId gameId user)
  pure ⟨env.sessionId, channelId, gameId, user, [], .object [], env.now, none⟩

/-- `session_row_to_response`. -/
def sessionRowToResponse (json : JsonText) (row : GameSessionRow) (sessionId : String) :
    Handler SessionResponse := do
  let session ← .query (·.activeGameSessions sessionId)
  pure
    { id := sessionId
      channelId := row.channelId
      gameId := row.gameId
      hostPubkey := row.hostPubkey
      players := session.elim [] (·.players)
      stateJson := (json.read row.stateJson).getD (.object [])
      createdAt := row.createdAt
      endedAt := row.endedAt }

def joinSession (json : JsonText) (user sessionId : String) : Handler SessionResponse := do
  let row ← fetchOpenSession sessionId
  .exec (addPlayer sessionId user)
  broadcastGameEvent row.channelId (.gameSessionJoined sessionId user)
  sessionRowToResponse json row sessionId

def getSession (json : JsonText) (sessionId : String) : Handler SessionResponse := do
  let row ← fetchOpenSession sessionId
  sessionRowToResponse json row sessionId

/-! ## Requests -/

inductive PlayRequest where
  | create (env : CreateSessionEnv) (user channelId gameId : String)
  | join (user sessionId : String)
  | get (sessionId : String)
  | patch (user sessionId : String) (change : Payload)
  | finish (now user sessionId : String)
  deriving DecidableEq

inductive PlayAnswer where
  | session (response : SessionResponse)
  | done (status : StatusCode)
  deriving DecidableEq

namespace PlayRequest

/-- The session that the request is about. A new session has no name yet. -/
def sessionId? : PlayRequest → Option String
  | .create _ _ _ _ => none
  | .join _ sessionId => some sessionId
  | .get sessionId => some sessionId
  | .patch _ sessionId _ => some sessionId
  | .finish _ _ sessionId => some sessionId

def handler (json : JsonText) : PlayRequest → Handler PlayAnswer
  | .create env user channelId gameId => do
      let response ← createSession env user channelId gameId
      pure (.session response)
  | .join user sessionId => do
      let response ← joinSession json user sessionId
      pure (.session response)
  | .get sessionId => do
      let response ← getSession json sessionId
      pure (.session response)
  | .patch user sessionId change => do
      let status ← patchState json user sessionId change
      pure (.done status)
  | .finish now user sessionId => do
      let status ← endSession now user sessionId
      pure (.done status)

end PlayRequest

def playRun (json : JsonText) (moves : List (Move PlayRequest)) (s : AppState) :
    Server PlayRequest AppState ApiError PlayAnswer :=
  serve (PlayRequest.handler json) moves s

/-! ## What the statements do to a session -/

def WsServerMessage.announces (sessionId : String) : WsServerMessage → Bool
  | .gameSessionCreated created _ _ _ => created = sessionId
  | _ => false

/-- The session has been announced to the subscribers of its channel. -/
def AppState.hasAnnounced (s : AppState) (sessionId : String) : Bool :=
  s.chatTx.any fun event => event.2.announces sessionId

/-- What never changes about a session. -/
structure SessionFacts where
  channelId : String
  gameId : String
  hostPubkey : String
  deriving DecidableEq

def GameSessionRow.facts (row : GameSessionRow) : SessionFacts :=
  ⟨row.channelId, row.gameId, row.hostPubkey⟩

def GameSessionState.facts (session : GameSessionState) : SessionFacts :=
  ⟨session.channelId, session.gameId, session.hostPubkey⟩

/-- What there is of a session: its row with whether it is open, its entry in memory with
the players, and whether it has been announced. -/
@[ext]
structure SessionView where
  filed : Option (SessionFacts × Bool)
  seated : Option (SessionFacts × List String)
  announced : Bool

def AppState.sessionView (s : AppState) (sessionId : String) : SessionView where
  filed := (s.db.gameSessions.find? sessionId).map fun row =>
    (row.facts, decide (row.endedAt = none))
  seated := (s.activeGameSessions sessionId).map fun session => (session.facts, session.players)
  announced := s.hasAnnounced sessionId

namespace SessionView

def isOpen (view : SessionView) : Bool :=
  view.filed.any (·.2)

/-- A new row, unless there is one. -/
def file (facts : SessionFacts) (view : SessionView) : SessionView :=
  { view with filed := some (view.filed.getD (facts, true)) }

def seat (facts : SessionFacts) (view : SessionView) : SessionView :=
  { view with seated := some (facts, [facts.hostPubkey]) }

def announce (view : SessionView) : SessionView :=
  { view with announced := true }

def join (user : String) (view : SessionView) : SessionView :=
  { view with seated := view.seated.map fun seat => (seat.1, insertPlayer user seat.2) }

def close (view : SessionView) : SessionView :=
  { view with filed := view.filed.map fun entry => (entry.1, false) }

def clear (view : SessionView) : SessionView :=
  { view with seated := none }

/-- The session is in memory unless it has ended. -/
structure Settled (view : SessionView) : Prop where
  filed : view.filed ≠ none
  seated : view.isOpen = true → view.seated ≠ none

/-- The session is over. -/
def Over (view : SessionView) : Prop :=
  view.filed ≠ none ∧ view.isOpen = false

theorem file_of_filed {facts : SessionFacts} {view : SessionView} (h : view.filed ≠ none) :
    view.file facts = view := by
  cases hfiled : view.filed with
  | none => exact absurd hfiled h
  | some entry =>
      ext1
      · rw [file, hfiled, Option.getD_some]
      · rfl
      · rfl

@[simp]
theorem isOpen_close (view : SessionView) : view.close.isOpen = false := by
  rw [isOpen, close, Option.any_map]
  cases view.filed <;> rfl

theorem close_over {view : SessionView} (h : view.filed ≠ none) : view.close.Over :=
  ⟨by simpa [close] using h, isOpen_close view⟩

end SessionView

section Views

variable {s : AppState} {sessionId : String}

theorem isOpen_sessionView : (s.sessionView sessionId).isOpen = s.db.isOpen sessionId := by
  rw [SessionView.isOpen, AppState.sessionView, Option.any_map, Db.isOpen]

/-- A refused insertion changes nothing. -/
theorem executed_insertGameSession (row : GameSessionRow) (s : AppState) :
    executed (insertGameSession row) s =
      s.withDb { s.db with gameSessions := s.db.gameSessions.insertOrIgnore row } := by
  rw [executed, insertGameSession, Table.insertOrIgnore]
  cases s.db.gameSessions.insert? row <;> rfl

theorem sessionView_insert {row : GameSessionRow} (hopen : row.endedAt = none) :
    (executed (insertGameSession row) s).sessionView sessionId =
      if row.id = sessionId then (s.sessionView sessionId).file row.facts
      else s.sessionView sessionId := by
  rw [executed_insertGameSession]
  have hfind := Table.find?_insertOrIgnore s.db.gameSessions row sessionId
  split_ifs with hid
  · rw [if_pos hid.symm] at hfind
    ext1
    · change ((s.db.gameSessions.insertOrIgnore row).find? sessionId).map _ = _
      rw [hfind]
      cases hrow : s.db.gameSessions.find? sessionId with
      | none => simp [SessionView.file, AppState.sessionView, hrow, hopen]
      | some old => simp [SessionView.file, AppState.sessionView, hrow]
    · rfl
    · rfl
  · rw [if_neg (Ne.symm hid)] at hfind
    ext1
    · exact congrArg (Option.map _) hfind
    · rfl
    · rfl

/-- An accepted insertion has found no row. -/
theorem filed_of_insertGameSession {row : GameSessionRow} {db : Db}
    (h : insertGameSession row s.db = .ok db) : (s.sessionView row.id).filed = none := by
  rw [insertGameSession] at h
  cases hinsert : s.db.gameSessions.insert? row with
  | none => simp [hinsert] at h
  | some gameSessions =>
      have hfree := (Table.insert?_eq_some_iff.mp hinsert).1
      rw [AppState.sessionView, Table.find?_eq_none_iff.mpr hfree, Option.map_none]

theorem sessionView_enterSession (session : GameSessionState) :
    (enterSession session s).sessionView sessionId =
      if session.id = sessionId then
        { s.sessionView sessionId with seated := some (session.facts, session.players) }
      else s.sessionView sessionId := by
  split_ifs with hid
  · subst hid
    simp [AppState.sessionView, enterSession, AppState.hasAnnounced]
  · simp [AppState.sessionView, enterSession, AppState.hasAnnounced, Ne.symm hid]

theorem sessionView_addPlayer (id user : String) :
    (addPlayer id user s).sessionView sessionId =
      if id = sessionId then (s.sessionView sessionId).join user else s.sessionView sessionId := by
  split_ifs with hid
  · subst hid
    ext1
    · rfl
    · simp only [AppState.sessionView, addPlayer, if_true, SessionView.join, Option.map_map]
      rfl
    · rfl
  · simp [AppState.sessionView, addPlayer, AppState.hasAnnounced, Ne.symm hid]

theorem sessionView_broadcast (event : ChatEvent × WsServerMessage) :
    ({ s with chatTx := s.chatTx ++ [event] } : AppState).sessionView sessionId =
      if event.2.announces sessionId = true then (s.sessionView sessionId).announce
      else s.sessionView sessionId := by
  have hannounced : ({ s with chatTx := s.chatTx ++ [event] } : AppState).hasAnnounced sessionId =
      (s.hasAnnounced sessionId || event.2.announces sessionId) := by
    simp [AppState.hasAnnounced]
  split_ifs with hevent
  · ext1
    · rfl
    · rfl
    · exact hannounced.trans (by simp [hevent, SessionView.announce])
  · ext1
    · rfl
    · rfl
    · exact hannounced.trans (by simp [hevent, AppState.sessionView])

/-- What the update of another row leaves. -/
theorem find?_updateGameSession_of_ne {id : String} (hid : id ≠ sessionId)
    (f : GameSessionRow → GameSessionRow) (hf : ∀ row, (f row).id = row.id) (db : Db) :
    (updateGameSession id f hf db).gameSessions.find? sessionId =
      db.gameSessions.find? sessionId := by
  show (db.gameSessions.update _ f hf).find? sessionId = _
  rw [Table.find?_update]
  cases hrow : db.gameSessions.find? sessionId with
  | none => rfl
  | some row =>
      have hother : row.id ≠ id := by
        rw [(Table.find?_eq_some_iff.mp hrow).2]
        exact hid.symm
      simp [hother]

theorem sessionView_setEndedAt (id now : String) :
    (written (setEndedAt id now) s).sessionView sessionId =
      if id = sessionId then (s.sessionView sessionId).close else s.sessionView sessionId := by
  split_ifs with hid
  · subst hid
    ext1
    · change ((setEndedAt id now s.db).gameSessions.find? id).map _ = _
      rw [setEndedAt, find?_updateGameSession, SessionView.close, AppState.sessionView,
        Option.map_map, Option.map_map]
      rfl
    · rfl
    · rfl
  · ext1
    · exact congrArg (Option.map _) (find?_updateGameSession_of_ne hid _ _ _)
    · rfl
    · rfl

theorem sessionView_setStateJson (id text : String) :
    (written (setStateJson id text) s).sessionView sessionId = s.sessionView sessionId := by
  by_cases hid : id = sessionId
  · subst hid
    ext1
    · change ((setStateJson id text s.db).gameSessions.find? id).map _ = _
      rw [setStateJson, find?_updateGameSession, Option.map_map]
      rfl
    · rfl
    · rfl
  · ext1
    · exact congrArg (Option.map _) (find?_updateGameSession_of_ne hid _ _ _)
    · rfl
    · rfl

theorem sessionView_setInMemoryState (id : String) (state : Payload) :
    (setInMemoryState id state s).sessionView sessionId = s.sessionView sessionId := by
  ext1
  · rfl
  · change ((setInMemoryState id state s).activeGameSessions sessionId).map _ = _
    rw [setInMemoryState]
    dsimp only
    split_ifs with hid
    · rw [Option.map_map]
      rfl
    · rfl
  · rfl

theorem sessionView_removeInMemory (id : String) :
    (removeInMemory id s).sessionView sessionId =
      if id = sessionId then (s.sessionView sessionId).clear else s.sessionView sessionId := by
  split_ifs with hid
  · subst hid
    simp [AppState.sessionView, removeInMemory, SessionView.clear, AppState.hasAnnounced]
  · simp [AppState.sessionView, removeInMemory, AppState.hasAnnounced, Ne.symm hid]

end Views

/-! ## What the handlers send -/

/-- A job has changed the row and has still to change the entry. -/
def Halfway (sessionId : String) (past : List (Sent AppState)) : Prop :=
  ∃ sent ∈ past.getLast?, (sent.before.sessionView sessionId).isOpen ≠
    (sent.after.sessionView sessionId).isOpen

/-- What the handlers send, by what it does to the session. -/
inductive PlaySent (sessionId : String) (request : PlayRequest) (past : List (Sent AppState))
    (sent : Sent AppState) : Prop
  | aside (hpast : ¬ Halfway sessionId past)
      (hjoin : ∀ user, request = .join user sessionId → past.length ≠ 1)
      (h : sent.after.sessionView sessionId = sent.before.sessionView sessionId)
  | file (facts : SessionFacts) (hpast : ¬ Halfway sessionId past)
      (hnew : request.sessionId? = none)
      (h : sent.after.sessionView sessionId = (sent.before.sessionView sessionId).file facts)
  | seat (facts : SessionFacts) (hnew : request.sessionId? = none)
      (hlast : ∃ last ∈ past.getLast?, (last.before.sessionView sessionId).filed = none ∧
        (last.after.sessionView sessionId).filed = some (facts, true))
      (h : sent.after.sessionView sessionId = (sent.before.sessionView sessionId).seat facts)
  | announce (hpast : ¬ Halfway sessionId past) (hnew : request.sessionId? = none)
      (hlast : ∃ last ∈ past.getLast?, (last.after.sessionView sessionId).seated ≠ none)
      (h : sent.after.sessionView sessionId = (sent.before.sessionView sessionId).announce)
  | join (user : String) (hrequest : request = .join user sessionId)
      (hpast : ¬ Halfway sessionId past) (hlength : past.length = 1)
      (h : sent.after.sessionView sessionId = (sent.before.sessionView sessionId).join user)
  | close (now user : String) (hrequest : request = .finish now user sessionId)
      (hpast : ¬ Halfway sessionId past)
      (h : sent.after.sessionView sessionId = (sent.before.sessionView sessionId).close)
  | clear (now user : String) (hrequest : request = .finish now user sessionId)
      (hlast : ∃ last ∈ past.getLast?, last.after.sessionView sessionId =
        (last.before.sessionView sessionId).close)
      (h : sent.after.sessionView sessionId = (sent.before.sessionView sessionId).clear)

section Handlers

variable {json : JsonText} {sessionId : String} {past : List (Sent AppState)}
  {sent : Sent AppState} {request : PlayRequest}

/-- The statement leaves the session as it is. -/
def Still (sessionId : String) (sent : Sent AppState) : Prop :=
  sent.after.sessionView sessionId = sent.before.sessionView sessionId

theorem still_broadcast {event : ChatEvent × WsServerMessage} {s : AppState}
    (h : event.2.announces sessionId = false) :
    Still sessionId ⟨fun s => { s with chatTx := s.chatTx ++ [event] }, s⟩ :=
  (sessionView_broadcast event).trans (if_neg (by simp [h]))

theorem mem_getLast?_snoc : sent ∈ (past ++ [sent]).getLast? :=
  List.getLast?_concat

theorem not_halfway_nil : ¬ Halfway sessionId [] := by
  rintro ⟨last, hlast, -⟩
  cases hlast

theorem not_halfway_snoc (h : (sent.after.sessionView sessionId).isOpen =
    (sent.before.sessionView sessionId).isOpen) : ¬ Halfway sessionId (past ++ [sent]) := by
  rintro ⟨last, hlast, hchange⟩
  rw [List.getLast?_concat] at hlast
  cases hlast
  exact hchange h.symm

theorem Still.not_halfway (h : Still sessionId sent) : ¬ Halfway sessionId (past ++ [sent]) :=
  not_halfway_snoc (congrArg SessionView.isOpen h)

theorem not_halfway_read {s : AppState} : ¬ Halfway sessionId (past ++ [⟨id, s⟩]) :=
  not_halfway_snoc rfl

/-- Programs that leave the session alone. -/
theorem follows_aside {A : Type} {p : Handler A} {post : A → List (Sent AppState) → Prop}
    (hjoin : ∀ user, request ≠ .join user sessionId)
    (h : p.Follows (fun _ sent => Still sessionId sent) post past)
    (hpast : ¬ Halfway sessionId past) :
    p.Follows (PlaySent sessionId request) (fun a past => post a past ∧ ¬ Halfway sessionId past)
      past := by
  induction p generalizing past with
  | ret a => exact ⟨h, hpast⟩
  | fail e => trivial
  | step act next ih =>
      intro s
      refine ⟨.aside hpast (fun user hrequest => absurd hrequest (hjoin user)) (h s).1, ?_⟩
      exact ih s (h s).2 (h s).1.not_halfway

theorem ne_join_of_new (hnew : request.sessionId? = none) (user : String) :
    request ≠ .join user sessionId := by
  rintro rfl
  cases hnew

theorem createSession_follows {env : CreateSessionEnv} {user channelId gameId : String} :
    (createSession env user channelId gameId).Follows
      (PlaySent sessionId (.create env user channelId gameId)) (fun _ _ => True) [] := by
  have hjoin : ∀ other, PlayRequest.create env user channelId gameId ≠ .join other sessionId :=
    ne_join_of_new rfl
  have haside : ∀ past sent, ¬ Halfway sessionId past → Still sessionId sent →
      PlaySent sessionId (.create env user channelId gameId) past sent :=
    fun past sent hpast => .aside hpast fun other h => absurd h (hjoin other)
  have hperms : (userPermissions user).Follows (fun _ sent => Still sessionId sent)
      (fun _ _ => True) [] :=
    (userPermissions_reads user).mono (fun _ sent _ h => congrArg (AppState.sessionView · sessionId)
      (Sent.after_of_id h)) fun _ _ _ _ => trivial
  apply (follows_aside hjoin hperms not_halfway_nil).bind
  rintro perms past - ⟨-, hpast⟩
  apply Prog.follows_ofExcept_bind
  intro _ _
  apply follows_fetch_bind fun s => haside _ _ hpast rfl
  intro s
  apply Prog.follows_ensure_bind
  intro _
  apply follows_fetch_bind fun s => haside _ _ not_halfway_read rfl
  intro s'
  apply Prog.follows_ensure_bind
  intro _
  by_cases hid : env.sessionId = sessionId
  · have hfile : ∀ t, (executed (insertGameSession (env.row user channelId gameId))
        t).sessionView sessionId = (t.sessionView sessionId).file ⟨channelId, gameId, user⟩ :=
      fun t => (sessionView_insert rfl).trans (if_pos hid)
    apply follows_execute_bind fun t => .file _ not_halfway_read rfl (hfile t)
    intro t db hinsert
    have hnone : (t.sessionView sessionId).filed = none := by
      have := filed_of_insertGameSession hinsert
      rwa [show (env.row user channelId gameId).id = sessionId from hid] at this
    have henter : ∀ u, (enterSession (env.row user channelId gameId).entry
        u).sessionView sessionId = (u.sessionView sessionId).seat ⟨channelId, gameId, user⟩ :=
      fun u => (sessionView_enterSession _).trans (if_pos hid)
    apply Prog.follows_exec_bind
    · intro u
      refine .seat _ rfl ⟨_, mem_getLast?_snoc, hnone, ?_⟩ (henter u)
      rw [Sent.after_mk, hfile, SessionView.file, hnone]
      rfl
    intro u v
    refine ⟨.announce (not_halfway_snoc ?_) rfl ⟨_, mem_getLast?_snoc, ?_⟩ ?_, trivial⟩
    · rw [Sent.after_mk, henter]
      rfl
    · rw [Sent.after_mk, henter]
      simp [SessionView.seat]
    · exact (sessionView_broadcast _).trans (if_pos (by simp [WsServerMessage.announces, hid]))
  · have hfile : ∀ t, Still sessionId ⟨executed (insertGameSession (env.row user channelId gameId)),
        t⟩ := fun t => (sessionView_insert rfl).trans (if_neg hid)
    apply follows_execute_bind fun t => haside _ _ not_halfway_read (hfile t)
    intro t db _
    have henter : ∀ u, Still sessionId ⟨enterSession (env.row user channelId gameId).entry, u⟩ :=
      fun u => (sessionView_enterSession _).trans (if_neg hid)
    apply Prog.follows_exec_bind fun u => haside _ _ (hfile t).not_halfway (henter u)
    intro u v
    exact ⟨haside _ _ (henter u).not_halfway
      (still_broadcast (by simp [WsServerMessage.announces, hid])), trivial⟩

theorem fetchHostedSession_still {user message asked : String} :
    (fetchHostedSession user message asked).Follows (fun _ sent => Still sessionId sent)
      (fun _ _ => True) [] :=
  (fetchHostedSession_follows (fun _ sent => Still sessionId sent) fun _ _ _ => rfl).mono
    (fun _ _ _ h => h) fun _ _ _ _ => trivial

theorem patchState_still {user asked : String} {change : Payload} :
    (patchState json user asked change).Follows (fun _ sent => Still sessionId sent)
      (fun _ _ => True) [] := by
  apply fetchHostedSession_still.bind
  intro row past _ _
  apply follows_fetch_bind fun s => rfl
  intro s
  cases s.db.openState asked with
  | none => trivial
  | some text =>
      apply follows_write_bind fun t => sessionView_setStateJson _ _
      intro t
      apply Prog.follows_exec_bind fun u => sessionView_setInMemoryState _ _
      exact fun u v => ⟨still_broadcast rfl, trivial⟩

/-- An open session is found with one statement. -/
theorem fetchOpenSession_reads {asked : String} :
    (fetchOpenSession asked).Follows (fun past' sent => past' = past ∧ Still sessionId sent)
      (fun _ past' => ∃ s, past' = past ++ [⟨id, s⟩]) past := by
  apply follows_fetch_bind fun s => ⟨rfl, rfl⟩
  intro s
  cases s.db.gameSessions.find? asked with
  | none => trivial
  | some row =>
      dsimp only
      split_ifs
      · exact ⟨s, rfl⟩
      · trivial

theorem getSession_still {asked : String} :
    (getSession json asked).Follows (fun _ sent => Still sessionId sent) (fun _ _ => True) [] := by
  apply (fetchOpenSession_reads.mono (fun _ _ _ h => h.2) fun _ _ _ _ => trivial).bind
  intro row past _ _
  exact fun s => ⟨rfl, trivial⟩

theorem joinSession_follows {user asked : String} :
    (joinSession json user asked).Follows (PlaySent sessionId (.join user asked))
      (fun _ past => 2 ≤ past.length) [] := by
  have hread : (fetchOpenSession asked).Follows (PlaySent sessionId (.join user asked))
      (fun _ past => ∃ s, past = [] ++ [⟨id, s⟩]) [] := by
    apply fetchOpenSession_reads.mono
    · rintro past sent - ⟨rfl, hstill⟩
      exact .aside not_halfway_nil (fun _ _ => by simp) hstill
    · exact fun _ _ _ h => h
  apply hread.bind
  rintro row past - ⟨s, rfl⟩
  apply Prog.follows_exec_bind
  · intro t
    by_cases hid : asked = sessionId
    · subst hid
      exact .join user rfl not_halfway_read rfl
        ((sessionView_addPlayer asked user).trans (if_pos rfl))
    · refine .aside not_halfway_read ?_ ((sessionView_addPlayer asked user).trans (if_neg hid))
      rintro other hother
      cases hother
      exact absurd rfl hid
  intro t u
  have hadded : ¬ Halfway sessionId ([] ++ [⟨id, s⟩] ++ [⟨addPlayer asked user, t⟩]) := by
    apply not_halfway_snoc
    rw [Sent.after_mk, sessionView_addPlayer]
    split_ifs <;> rfl
  have hannounced : Still sessionId ⟨fun s => { s with
      chatTx := s.chatTx ++ [(.game row.channelId, .gameSessionJoined asked user)] }, u⟩ :=
    still_broadcast rfl
  refine ⟨.aside hadded (fun _ _ => by simp) hannounced, fun v => ?_⟩
  refine ⟨.aside hannounced.not_halfway (fun _ _ => by simp) rfl, ?_⟩
  show 2 ≤ List.length _
  simp

theorem endSession_play {now user asked : String} :
    (endSession now user asked).Follows (PlaySent sessionId (.finish now user asked))
      (fun _ _ => True) [] := by
  have hjoin : ∀ other, PlayRequest.finish now user asked ≠ .join other sessionId := by simp
  have haside : ∀ past sent, ¬ Halfway sessionId past → Still sessionId sent →
      PlaySent sessionId (.finish now user asked) past sent :=
    fun past sent hpast => .aside hpast fun other h => absurd h (hjoin other)
  apply (follows_aside hjoin fetchHostedSession_still not_halfway_nil).bind
  rintro row past - ⟨-, hpast⟩
  by_cases hid : asked = sessionId
  · subst hid
    have hclose : ∀ t, (written (setEndedAt asked now) t).sessionView asked =
        (t.sessionView asked).close :=
      fun t => (sessionView_setEndedAt asked now).trans (if_pos rfl)
    have hclear : ∀ t, (removeInMemory asked t).sessionView asked = (t.sessionView asked).clear :=
      fun t => (sessionView_removeInMemory asked).trans (if_pos rfl)
    apply follows_write_bind fun t => .close now user rfl hpast (hclose t)
    intro t
    apply Prog.follows_exec_bind fun u =>
      .clear now user rfl ⟨_, mem_getLast?_snoc, hclose t⟩ (hclear u)
    intro u v
    refine ⟨haside _ _ (not_halfway_snoc ?_) (still_broadcast rfl), trivial⟩
    rw [Sent.after_mk, hclear]
    rfl
  · have hclose : ∀ t, Still sessionId ⟨written (setEndedAt asked now), t⟩ :=
      fun t => (sessionView_setEndedAt asked now).trans (if_neg hid)
    have hclear : ∀ t, Still sessionId ⟨removeInMemory asked, t⟩ :=
      fun t => (sessionView_removeInMemory asked).trans (if_neg hid)
    apply follows_write_bind fun t => haside _ _ hpast (hclose t)
    intro t
    apply Prog.follows_exec_bind fun u => haside _ _ (hclose t).not_halfway (hclear u)
    exact fun u v => ⟨haside _ _ (hclear u).not_halfway (still_broadcast rfl), trivial⟩

/-- A player who has been let in has been added. -/
def PlayRequest.Done (sessionId : String) (request : PlayRequest) (past : List (Sent AppState)) :
    Prop :=
  ∀ user, request = .join user sessionId → 2 ≤ past.length

theorem PlayRequest.handler_follows (request : PlayRequest) :
    (request.handler json).Follows (PlaySent sessionId request)
      (fun _ => request.Done sessionId) [] := by
  cases request with
  | create env user channelId gameId =>
      exact createSession_follows.bind fun _ _ _ _ other hother => by cases hother
  | join user asked =>
      exact joinSession_follows.bind fun _ past _ hlength other _ => hlength
  | get asked =>
      have hjoin : ∀ other, PlayRequest.get asked ≠ .join other sessionId := by simp
      exact (follows_aside hjoin getSession_still not_halfway_nil).bind
        fun _ _ _ _ other hother => absurd hother (hjoin other)
  | patch user asked change =>
      have hjoin : ∀ other, PlayRequest.patch user asked change ≠ .join other sessionId := by simp
      exact (follows_aside hjoin patchState_still not_halfway_nil).bind
        fun _ _ _ _ other hother => absurd hother (hjoin other)
  | finish now user asked =>
      exact endSession_play.bind fun _ _ _ _ other hother => by cases hother

/-- Who has an answer is not halfway, and a player who has been refused has not been
added. -/
structure Answered (sessionId : String) (request : PlayRequest) {A : Type}
    (answer : Option (Except ApiError A)) (past : List (Sent AppState)) : Prop where
  finished : answer ≠ none → ¬ Halfway sessionId past
  refused : ∀ e, answer = some (.error e) → ∀ user, request = .join user sessionId → past.length < 2

theorem answered_none {A : Type} :
    Answered sessionId request (none : Option (Except ApiError A)) past :=
  ⟨fun h => absurd rfl h, by simp⟩

theorem answered_of_ne_join {A : Type} {answer : Option (Except ApiError A)}
    (hjoin : ∀ user, request ≠ .join user sessionId) (hpast : ¬ Halfway sessionId past) :
    Answered sessionId request answer past :=
  ⟨fun _ => hpast, fun _ _ user hrequest => absurd hrequest (hjoin user)⟩

/-- Whatever is made of the answer. -/
theorem Answered.map {A B : Type} {p : Handler A}
    (h : p.Always (Answered sessionId request) past) (f : A → B) :
    (p >>= fun a => pure (f a)).Always (Answered sessionId request) past := by
  change (p.bind fun a => pure (f a)).Always _ past
  induction p generalizing past with
  | ret a => exact ⟨fun _ => h.finished (by simp), by simp⟩
  | fail e =>
      refine ⟨fun _ => h.finished (by simp), fun e' he' => ?_⟩
      cases he'
      exact h.refused e rfl
  | step act next ih => exact ⟨answered_none, fun s => ih s (h.2 s)⟩

/-- Programs that leave the session alone have nothing to finish. -/
theorem always_aside {A : Type} {p : Handler A} {post : A → List (Sent AppState) → Prop}
    (hjoin : ∀ user, request ≠ .join user sessionId)
    (h : p.Follows (fun _ sent => Still sessionId sent) post []) :
    p.Always (Answered sessionId request) [] :=
  h.always (fun past => ¬ Halfway sessionId past) (fun _ _ hstill _ => hstill.not_halfway)
    not_halfway_nil fun _ _ => answered_of_ne_join hjoin

theorem createSession_always {env : CreateSessionEnv} {user channelId gameId : String} :
    (createSession env user channelId gameId).Always
      (Answered sessionId (.create env user channelId gameId)) [] := by
  have hother : ∀ {A : Type} {answer : Option (Except ApiError A)} {past},
      ¬ Halfway sessionId past →
        Answered sessionId (.create env user channelId gameId) answer past :=
    answered_of_ne_join (ne_join_of_new rfl)
  apply (userPermissions_reads user).always_bind (fun past => ¬ Halfway sessionId past)
    (fun _ _ hread _ => Still.not_halfway (congrArg (AppState.sessionView · sessionId)
      (Sent.after_of_id hread))) not_halfway_nil fun _ _ => hother
  intro perms past hpast _
  apply Prog.always_ofExcept_bind fun e _ => hother hpast
  intro _ _
  apply always_fetch_bind answered_none
  intro s
  apply Prog.always_ensure_bind fun _ => hother not_halfway_read
  intro _
  apply always_fetch_bind answered_none
  intro s'
  apply Prog.always_ensure_bind fun _ => hother not_halfway_read
  intro _
  apply always_execute_bind answered_none
  · intro t e herror
    exact hother (not_halfway_snoc (by rw [Sent.after_mk, executed_of_error herror]))
  intro t db _
  refine ⟨answered_none, fun u => ⟨answered_none, fun v => hother (not_halfway_snoc ?_)⟩⟩
  exact (congrArg SessionView.isOpen (sessionView_broadcast _)).trans (by split_ifs <;> rfl)

theorem joinSession_always {user asked : String} :
    (joinSession json user asked).Always (Answered sessionId (.join user asked)) [] := by
  have hread : (fetchOpenSession asked).Follows
      (fun past sent => past = [] ∧ Still sessionId sent) (fun _ _ => True) [] :=
    fetchOpenSession_reads.mono (fun _ _ _ h => h) fun _ _ _ _ => trivial
  refine hread.always_bind (fun past => past.length < 2 ∧ ¬ Halfway sessionId past) ?_
    ⟨by simp, not_halfway_nil⟩ ?_ ?_
  · rintro past sent ⟨rfl, hstill⟩ -
    exact ⟨by simp, hstill.not_halfway⟩
  · exact fun _ _ hpast => ⟨fun _ => hpast.2, fun _ _ _ _ => hpast.1⟩
  · intro row past _ _
    refine ⟨answered_none, fun t => ⟨answered_none, fun u => ⟨answered_none, fun v => ?_⟩⟩⟩
    exact ⟨fun _ => not_halfway_read, by simp⟩

theorem endSession_always {now user asked : String} :
    (endSession now user asked).Always (Answered sessionId (.finish now user asked)) [] := by
  have hother : ∀ {A : Type} {answer : Option (Except ApiError A)} {past},
      ¬ Halfway sessionId past → Answered sessionId (.finish now user asked) answer past :=
    answered_of_ne_join (by simp)
  apply (fetchHostedSession_still).always_bind (fun past => ¬ Halfway sessionId past)
    (fun _ _ hstill _ => hstill.not_halfway) not_halfway_nil fun _ _ => hother
  intro row past _ _
  apply always_write_bind answered_none
  intro t
  refine ⟨answered_none, fun u => ⟨answered_none, fun v => hother (Still.not_halfway ?_)⟩⟩
  exact still_broadcast rfl

theorem PlayRequest.handler_always (request : PlayRequest) :
    (request.handler json).Always (Answered sessionId request) [] := by
  cases request with
  | create env user channelId gameId => exact Answered.map createSession_always _
  | join user asked => exact Answered.map joinSession_always _
  | get asked => exact Answered.map (always_aside (by simp) getSession_still) _
  | patch user asked change => exact Answered.map (always_aside (by simp) patchState_still) _
  | finish now user asked => exact Answered.map endSession_always _

end Handlers

end Voxply.Hub
