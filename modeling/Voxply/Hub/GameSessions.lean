/-
# Game sessions

A game that is played in a channel has a row with its state, as a text, and a copy of
the state in memory.  The host patches the state and ends the session, and so may an
administrator.

A patch is merged in three steps: the text is read, the result is written back, and
then the copy in memory is replaced.  Nothing keeps other requests from coming in
between.  If every patch writes what the row as it stands then calls for, and the
copies are made in the order of the rows, any number of requests amount to the patches
being applied one after the other.
-/

import Mathlib.Data.List.Permutation
import Voxply.Hub.AuditLog
import Voxply.Hub.Roles
import Voxply.Math.Commit

namespace Voxply.Hub

open Voxply.Math

/-! ## States and patches -/

/-- The part of `serde_json` that reads and writes states. -/
structure JsonText where
  read : String → Option Payload
  write : Payload → String

/-- Merge a patch: the fields of an object go into an object, and anything else is
replaced. -/
def Payload.merge : Payload → Payload → Payload
  | .object fields, .object changes =>
      .object (changes.foldl (fun fields change => insertField change.1 change.2 fields) fields)
  | _, patch => patch

section Patches

variable (json : JsonText)

/-- The state after a patch, from the text of the state before. What cannot be read
counts as an object without fields. -/
def patched (text : String) (patch : Payload) : Payload :=
  ((json.read text).getD (.object [])).merge patch

def patchedText (text : String) (patch : Payload) : String :=
  json.write (patched json text patch)

/-! ## Handlers -/

/-- `fetch_open_session`. -/
def fetchOpenSession (sessionId : String) : Handler GameSessionRow := do
  let row ← fetch (·.gameSessions.find? sessionId)
  match row with
  | none => .fail ⟨.notFound, "Session not found"⟩
  | some row =>
      if row.endedAt = none then pure row else .fail ⟨.gone, "Session has ended"⟩

/-- Everybody but the host has to be an administrator. -/
def requireHost (user message : String) (row : GameSessionRow) : Handler Unit :=
  .when (row.hostPubkey ≠ user) do
    let perms ← userPermissions user
    .ensure (perms.has admin = true) ⟨.forbidden, message⟩

/-- What both handlers start with. -/
def fetchHostedSession (user message sessionId : String) : Handler GameSessionRow := do
  let row ← fetchOpenSession sessionId
  requireHost user message row
  pure row

/-- `SELECT state_json FROM game_sessions WHERE id = ? AND ended_at IS NULL`. -/
def Db.openState (db : Db) (sessionId : String) : Option String :=
  ((db.gameSessions.find? sessionId).filter (·.endedAt = none)).map (·.stateJson)

/-- `UPDATE game_sessions SET … WHERE id = ?`. -/
def updateGameSession (sessionId : String) (f : GameSessionRow → GameSessionRow)
    (hf : ∀ row, (f row).id = row.id) (db : Db) : Db :=
  { db with gameSessions := db.gameSessions.update (·.id = sessionId) f hf }

def GameSessionRow.withState (text : String) (row : GameSessionRow) : GameSessionRow :=
  { row with stateJson := text }

def GameSessionRow.ended (now : String) (row : GameSessionRow) : GameSessionRow :=
  { row with endedAt := some now }

theorem id_withState (text : String) (row : GameSessionRow) :
    (row.withState text).id = row.id := rfl

theorem id_ended (now : String) (row : GameSessionRow) : (row.ended now).id = row.id := rfl

/-- `UPDATE game_sessions SET state_json = ? WHERE id = ?`. -/
def setStateJson (sessionId text : String) : Db → Db :=
  updateGameSession sessionId (GameSessionRow.withState text) (id_withState text)

/-- `UPDATE game_sessions SET ended_at = ? WHERE id = ?`. -/
def setEndedAt (sessionId now : String) : Db → Db :=
  updateGameSession sessionId (GameSessionRow.ended now) (id_ended now)

/-- Replace the state that is held in memory, if there is one. -/
def setInMemoryState (sessionId : String) (state : Payload) (s : AppState) : AppState :=
  { s with
    activeGameSessions := fun id =>
      if id = sessionId then
        (s.activeGameSessions id).map fun session => { session with inMemoryState := state }
      else s.activeGameSessions id }

def removeInMemory (sessionId : String) (s : AppState) : AppState :=
  { s with
    activeGameSessions := fun id => if id = sessionId then none else s.activeGameSessions id }

/-- `broadcast_game_event`. -/
def broadcastGameEvent (channelId : String) (msg : WsServerMessage) : Handler Unit :=
  .exec fun s => { s with chatTx := s.chatTx ++ [(.game channelId, msg)] }

def patchState (user sessionId : String) (patch : Payload) : Handler StatusCode := do
  let row ← fetchHostedSession user "Only the host can patch session state" sessionId
  let currentJson ← fetch (·.openState sessionId)
  match currentJson with
  | none => .fail ⟨.notFound, "Session not found or ended"⟩
  | some currentJson => do
      write (setStateJson sessionId (patchedText json currentJson patch))
      .exec (setInMemoryState sessionId (patched json currentJson patch))
      broadcastGameEvent row.channelId (.gameStateUpdated sessionId (json.write patch))
      pure .noContent

def endSession (now user sessionId : String) : Handler StatusCode := do
  let row ← fetchHostedSession user "Only the host or an admin can end the session" sessionId
  write (setEndedAt sessionId now)
  .exec (removeInMemory sessionId)
  broadcastGameEvent row.channelId (.gameSessionEnded sessionId)
  pure .noContent

/-! ## Requests -/

/-- What is asked of one session. -/
inductive GameRequest where
  | patch (user : String) (change : Payload)
  | finish (now user : String)
  deriving DecidableEq

def GameRequest.handler (sessionId : String) : GameRequest → Handler StatusCode
  | .patch user change => patchState json user sessionId change
  | .finish now user => endSession now user sessionId

def GameRequest.isPatch : GameRequest → Bool
  | .patch _ _ => true
  | .finish _ _ => false

/-- What a request asks to make of the text of the state. -/
def GameRequest.apply : GameRequest → String → String
  | .patch _ change, text => patchedText json text change
  | .finish _ _, text => text

/-- Follow a schedule of requests about one session. -/
def gameRun (sessionId : String) (moves : List (Move GameRequest)) (s : AppState) :
    Server GameRequest AppState ApiError StatusCode :=
  serve (GameRequest.handler json sessionId) moves s

end Patches

/-! ## What is to hold -/

section Right

variable (json : JsonText) (sessionId : String)

def Db.stateText (db : Db) : Option String :=
  (db.gameSessions.find? sessionId).map (·.stateJson)

def Db.isOpen (db : Db) : Bool :=
  (db.gameSessions.find? sessionId).any (·.endedAt = none)

/-- The copy in memory, if there is one, is the state of the row. -/
def AppState.CopyRight (s : AppState) : Prop :=
  ∀ session ∈ s.activeGameSessions sessionId,
    ∀ text ∈ s.db.stateText sessionId, json.write session.inMemoryState = text

instance decidableCopyRight (s : AppState) : Decidable (s.CopyRight json sessionId) :=
  inferInstanceAs (Decidable (∀ session ∈ s.activeGameSessions sessionId,
    ∀ text ∈ s.db.stateText sessionId, json.write session.inMemoryState = text))

/-- How much a patch reads before it writes: the session and its state, and in between
the roles of a user who is not the host and what they permit. -/
def patchReads (user : String) (past : List (Sent AppState)) : ℕ :=
  if past.head?.any fun first =>
      (first.before.db.gameSessions.find? sessionId).any (·.hostPubkey = user) then 2 else 4

/-- The state that a patch has read. -/
def textRead (user : String) (past : List (Sent AppState)) : Option String :=
  past[patchReads sessionId user past - 1]?.bind (·.before.db.openState sessionId)

namespace GameRequest

/-- The next statement writes the row. -/
def commits : GameRequest → List (Sent AppState) → Prop
  | .patch user _, past => past.length = patchReads sessionId user past
  | .finish _ _, _ => False

/-- The next statement makes the copy in memory. -/
def copies : GameRequest → List (Sent AppState) → Prop
  | .patch user _, past => past.length = patchReads sessionId user past + 1
  | .finish _ _, _ => False

instance decidableCommits (past : List (Sent AppState)) :
    ∀ request : GameRequest, Decidable (request.commits sessionId past)
  | .patch user _ => inferInstanceAs (Decidable (past.length = patchReads sessionId user past))
  | .finish _ _ => inferInstanceAs (Decidable False)

instance decidableCopies (past : List (Sent AppState)) :
    ∀ request : GameRequest, Decidable (request.copies sessionId past)
  | .patch user _ => inferInstanceAs (Decidable (past.length = patchReads sessionId user past + 1))
  | .finish _ _ => inferInstanceAs (Decidable False)

/-- A patch writes what the row as it stands calls for, and nothing new once the session
has ended. It makes its copy only if that is what the row holds, unless the copy that is
there is not either. -/
def WritesRight : GameRequest → List (Sent AppState) → AppState → Prop
  | .patch user change, past, s =>
      ∀ text ∈ textRead sessionId user past, ∀ now ∈ s.db.stateText sessionId,
        (commits sessionId (.patch user change) past →
          patchedText json text change = patchedText json now change ∧
            (s.db.isOpen sessionId = false → patchedText json text change = now)) ∧
        (copies sessionId (.patch user change) past → s.db.isOpen sessionId = true →
          s.CopyRight json sessionId → patchedText json text change = now)
  | .finish _ _, _, _ => True

instance decidableWritesRight (past : List (Sent AppState)) (s : AppState) :
    ∀ request : GameRequest, Decidable (request.WritesRight json sessionId past s)
  | .patch _ _ =>
      inferInstanceAs (Decidable (∀ text ∈ _, ∀ now ∈ _, (_ → _ ∧ (_ → _)) ∧ (_ → _ → _ → _)))
  | .finish _ _ => inferInstanceAs (Decidable True)

end GameRequest

/-- Everybody writes rightly. -/
def WritesRight (history : List (Event GameRequest AppState)) : Prop :=
  ∀ pre e post, history = pre ++ e :: post →
    e.request.WritesRight json sessionId (sentBy e.job pre) e.before

/-- No statement of another request comes between the one in which a patch reads the state and
the one in which it makes its copy. -/
def Unbroken (history : List (Event GameRequest AppState)) : Prop :=
  ∀ pre e post, history = pre ++ e :: post →
    e.request.commits sessionId (sentBy e.job pre) ∨ e.request.copies sessionId (sentBy e.job pre) →
    ∃ init last, pre = init ++ [last] ∧ last.job = e.job

/-- The state is what the accepted patches make of the first one, in some order. -/
def Serial (s : AppState) (server : Server GameRequest AppState ApiError StatusCode) : Prop :=
  ∃ order : List (ℕ × GameRequest), (order.map Prod.fst).Nodup ∧
    (∀ job request, (job, request) ∈ order →
      server.request? job = some request ∧ request.isPatch = true) ∧
    (∀ job request, server.request? job = some request → request.isPatch = true →
      server.answer? job ≠ none →
        ((job, request) ∈ order ↔ server.answer? job = some (.ok .noContent))) ∧
    server.state.db.stateText sessionId =
      order.foldl (fun text entry => text.map (entry.2.apply json)) (s.db.stateText sessionId)

/-- Nobody has written the row without having made the copy. -/
def Copied (server : Server GameRequest AppState ApiError StatusCode) : Prop :=
  ∀ job request, server.request? job = some request →
    ¬ request.copies sessionId (sentBy job server.history)

/-- The accepted patches are applied one after the other, the copy in memory follows as
long as the session is open, and once a request to end it has been answered the state
stays as it is. -/
structure MergesRight (moves : List (Move GameRequest)) (s : AppState) : Prop where
  serial : Serial json sessionId s (gameRun json sessionId moves s)
  copied : (gameRun json sessionId moves s).state.db.isOpen sessionId = true →
    Copied sessionId (gameRun json sessionId moves s) →
      (gameRun json sessionId moves s).state.CopyRight json sessionId
  final : ∀ first rest, moves = first ++ rest → ∀ job now user,
    (gameRun json sessionId first s).request? job = some (.finish now user) →
    (gameRun json sessionId first s).answer? job = some (.ok .noContent) →
      (gameRun json sessionId moves s).state.db.stateText sessionId =
        (gameRun json sessionId first s).state.db.stateText sessionId

end Right

/-! ## Statements -/

section Statements

variable {json : JsonText} {sessionId user : String} {past : List (Sent AppState)}

theorem two_le_patchReads (sessionId user : String) (past : List (Sent AppState)) :
    2 ≤ patchReads sessionId user past := by
  rw [patchReads]
  split_ifs <;> omega

/-- A patch that is about to write has read something. -/
theorem ne_nil_of_reads (h : patchReads sessionId user past ≤ past.length + 1) : past ≠ [] := by
  have htwo := two_le_patchReads sessionId user past
  rintro rfl
  simp only [List.length_nil] at h
  omega

/-- Who the host is has been read first. -/
theorem patchReads_append (hpast : past ≠ []) (more : List (Sent AppState)) :
    patchReads sessionId user (past ++ more) = patchReads sessionId user past := by
  rw [patchReads, List.head?_append_of_ne_nil _ hpast, patchReads]

/-- What has been read is not read again. -/
theorem textRead_append (hpast : patchReads sessionId user past ≤ past.length)
    (more : List (Sent AppState)) :
    textRead sessionId user (past ++ more) = textRead sessionId user past := by
  have htwo := two_le_patchReads sessionId user past
  have hne : past ≠ [] := ne_nil_of_reads (hpast.trans (Nat.le_succ _))
  rw [textRead, patchReads_append hne, List.getElem?_append_left (by omega), textRead]

/-- What the two handlers send. -/
inductive GameSent (json : JsonText) (sessionId : String) :
    GameRequest → List (Sent AppState) → Sent AppState → Prop
  | aside {request : GameRequest} {past : List (Sent AppState)} {sent : Sent AppState}
      (hcommits : ¬ request.commits sessionId past) (hcopies : ¬ request.copies sessionId past)
      (hrows : sent.after.db.gameSessions = sent.before.db.gameSessions)
      (hgames : sent.after.activeGameSessions = sent.before.activeGameSessions) :
      GameSent json sessionId request past sent
  | update {user : String} {change : Payload} {past : List (Sent AppState)} {sent : Sent AppState}
      {text : String} (hcommits : GameRequest.commits sessionId (.patch user change) past)
      (hread : textRead sessionId user past = some text)
      (h : sent.statement = written (setStateJson sessionId (patchedText json text change))) :
      GameSent json sessionId (.patch user change) past sent
  | copy {user : String} {change : Payload} {past : List (Sent AppState)} {sent : Sent AppState}
      {text : String} (hcopies : GameRequest.copies sessionId (.patch user change) past)
      (hread : textRead sessionId user past = some text)
      (h : sent.statement = setInMemoryState sessionId (patched json text change)) :
      GameSent json sessionId (.patch user change) past sent
  | close {now user : String} {past : List (Sent AppState)} {sent : Sent AppState}
      (h : sent.statement = written (setEndedAt sessionId now)) :
      GameSent json sessionId (.finish now user) past sent
  | remove {now user : String} {past : List (Sent AppState)} {sent : Sent AppState}
      (h : sent.statement = removeInMemory sessionId) :
      GameSent json sessionId (.finish now user) past sent

/-- A patch that has been answered with success has written the row, and a request to end
the session has marked it. -/
def GameRequest.Done (sessionId : String) (request : GameRequest) (answer : StatusCode)
    (past : List (Sent AppState)) : Prop :=
  answer = .noContent ∧
    match request with
    | .patch user change => Committed (commits sessionId) (.patch user change) past
    | .finish now _ => ∃ sent ∈ past, sent.statement = written (setEndedAt sessionId now)

/-- Both handlers read who may do what, and then once more or not at all. -/
theorem fetchHostedSession_follows (good : List (Sent AppState) → Sent AppState → Prop)
    {message : String}
    (hgood : ∀ past s, past.length + 1 < patchReads sessionId user past → good past ⟨id, s⟩) :
    (fetchHostedSession user message sessionId).Follows good
      (fun _ past => past.length + 1 = patchReads sessionId user past) [] := by
  have hfirst : (fetchOpenSession sessionId).Follows good (fun row past => ∃ s : AppState,
      s.db.gameSessions.find? sessionId = some row ∧ past = [⟨id, s⟩]) [] := by
    apply follows_fetch_bind
    · exact fun s => hgood [] s (by simp [patchReads])
    intro s
    cases hrow : s.db.gameSessions.find? sessionId with
    | none => trivial
    | some row =>
        dsimp only
        split_ifs
        · exact ⟨s, hrow, rfl⟩
        · trivial
  apply hfirst.bind
  rintro row _ - ⟨s, hrow, rfl⟩
  have hreads : patchReads sessionId user [⟨id, s⟩] = if row.hostPubkey = user then 2 else 4 := by
    simp [patchReads, hrow]
  have hcheck : (requireHost user message row).Follows good
      (fun _ past => past.length + 1 = patchReads sessionId user past) [⟨id, s⟩] := by
    apply Prog.follows_when
    · intro hother
      rw [if_neg hother] at hreads
      have hagain : ∀ more, patchReads sessionId user ([⟨id, s⟩] ++ more) = 4 :=
        fun more => (patchReads_append (by simp) more).trans hreads
      apply (userPermissions_asked (q := fun perms past => perms.has admin = true →
        past.length + 1 = patchReads sessionId user past) ?_ ?_ ?_ ?_).bind
      · exact fun perms past _ hperms => Prog.follows_ensure hperms
      · exact fun t => hgood _ t (by rw [hreads]; simp)
      · exact fun t t' => hgood _ t' (by rw [hagain]; simp)
      · -- Without a role nobody is an administrator.
        intro t perms _ hnone hadmin
        simp [UserPermissions.has, hnone] at hadmin
      · intro t t' perms _ _
        rw [List.append_assoc, hagain]
        rfl
    · intro hhost
      rw [hreads, if_pos (not_not.mp hhost)]
      rfl
  exact hcheck.bind fun _ past _ h => h

/-- What a patch sends before it writes and after its copy. -/
theorem not_writing {change : Payload} (hcommits : past.length ≠ patchReads sessionId user past)
    (hcopies : past.length ≠ patchReads sessionId user past + 1) {sent : Sent AppState}
    (hrows : sent.after.db.gameSessions = sent.before.db.gameSessions)
    (hgames : sent.after.activeGameSessions = sent.before.activeGameSessions) :
    GameSent json sessionId (.patch user change) past sent :=
  .aside hcommits hcopies hrows hgames

section Reads

variable {sent : Sent AppState} (h : past.length + 1 = patchReads sessionId user past)
include h

theorem patchReads_read : patchReads sessionId user (past ++ [sent]) = past.length + 1 := by
  rw [patchReads_append (ne_nil_of_reads h.ge), h]

/-- The last thing that a patch reads is the state. -/
theorem textRead_read :
    textRead sessionId user (past ++ [sent]) = sent.before.db.openState sessionId := by
  rw [textRead, patchReads_read h, Nat.add_sub_cancel, List.getElem?_append_right (le_refl _),
    Nat.sub_self]
  rfl

theorem commits_read (change : Payload) :
    GameRequest.commits sessionId (.patch user change) (past ++ [sent]) := by
  show (past ++ [sent]).length = _
  rw [patchReads_read h, List.length_append, List.length_singleton]

end Reads

/-- Having written, a patch goes on to make its copy. -/
theorem copies_snoc {change : Payload}
    (h : GameRequest.commits sessionId (.patch user change) past) (sent : Sent AppState) :
    GameRequest.copies sessionId (.patch user change) (past ++ [sent]) ∧
      textRead sessionId user (past ++ [sent]) = textRead sessionId user past := by
  have hlength : past.length = patchReads sessionId user past := h
  have hne : past ≠ [] := ne_nil_of_reads (hlength.ge.trans (Nat.le_succ _))
  refine ⟨?_, textRead_append hlength.ge _⟩
  show (past ++ [sent]).length = _
  rw [patchReads_append hne, List.length_append, List.length_singleton, hlength]

/-- Having made its copy, a patch is announced. -/
theorem announces {change : Payload}
    (h : GameRequest.copies sessionId (.patch user change) past) (copy : Sent AppState)
    {sent : Sent AppState} (hrows : sent.after.db.gameSessions = sent.before.db.gameSessions)
    (hgames : sent.after.activeGameSessions = sent.before.activeGameSessions) :
    GameSent json sessionId (.patch user change) (past ++ [copy]) sent := by
  have hlength : past.length = patchReads sessionId user past + 1 := h
  have hreads : patchReads sessionId user (past ++ [copy]) = patchReads sessionId user past :=
    patchReads_append (List.ne_nil_of_length_eq_add_one hlength) _
  have hnext : (past ++ [copy]).length = past.length + 1 := by simp
  refine not_writing ?_ ?_ hrows hgames
  · omega
  · omega

theorem patchState_follows {change : Payload} :
    (patchState json user sessionId change).Follows
      (GameSent json sessionId (.patch user change))
      (GameRequest.Done sessionId (.patch user change)) [] := by
  apply (fetchHostedSession_follows _ fun past s hpast =>
    not_writing (by omega) (by omega) rfl rfl).bind
  intro row past _ hpast
  apply follows_fetch_bind fun s => not_writing (by omega) (by omega) rfl rfl
  intro s
  have hcommits : GameRequest.commits sessionId (.patch user change) (past ++ [⟨id, s⟩]) :=
    commits_read hpast change
  have htext : textRead sessionId user (past ++ [⟨id, s⟩]) = s.db.openState sessionId :=
    textRead_read hpast
  cases hstate : s.db.openState sessionId with
  | none => trivial
  | some text =>
      rw [hstate] at htext
      apply follows_write_bind
      · exact fun t => .update hcommits htext rfl
      intro t
      rcases copies_snoc hcommits _ with ⟨hcopies, hsame⟩
      apply Prog.follows_exec_bind
      · exact fun u => .copy hcopies (hsame.trans htext) rfl
      intro u v
      refine ⟨announces hcopies _ rfl rfl, rfl, ?_⟩
      exact committed_snoc_iff.mpr (.inl (committed_snoc_iff.mpr (.inl
        (committed_snoc_iff.mpr (.inr hcommits)))))

theorem endSession_follows {now : String} :
    (endSession now user sessionId).Follows (GameSent json sessionId (.finish now user))
      (GameRequest.Done sessionId (.finish now user)) [] := by
  have hidle : ∀ past, ¬ GameRequest.commits sessionId (.finish now user) past ∧
      ¬ GameRequest.copies sessionId (.finish now user) past :=
    fun _ => ⟨id, id⟩
  apply (fetchHostedSession_follows _ fun past s _ =>
    .aside (hidle past).1 (hidle past).2 rfl rfl).bind
  intro row past _ _
  apply follows_write_bind
  · exact fun s => .close rfl
  intro s
  apply Prog.follows_exec_bind
  · exact fun t => .remove rfl
  intro t u
  refine ⟨.aside (hidle _).1 (hidle _).2 rfl rfl, rfl,
    ⟨written (setEndedAt sessionId now), s⟩, ?_, rfl⟩
  simp

theorem GameRequest.handler_follows (request : GameRequest) :
    (request.handler json sessionId).Follows (GameSent json sessionId request)
      (request.Done sessionId) [] := by
  cases request with
  | patch user change => exact patchState_follows
  | finish now user => exact endSession_follows

/-- A patch that is refused has written nothing. -/
theorem GameRequest.handler_always (request : GameRequest) :
    (request.handler json sessionId).Always (fun answer past => ∀ e, answer = some (.error e) →
      ¬ Committed (commits sessionId) request past) [] := by
  cases request with
  | finish now user =>
      have hfollows : (endSession now user sessionId).Follows
        (GameSent json sessionId (.finish now user)) (Done sessionId (.finish now user)) [] :=
          endSession_follows
      refine hfollows.always (fun _ => True) (fun _ _ _ _ => trivial) trivial ?_
      rintro answer past - e - ⟨before, sent, -, hcommits⟩
      exact hcommits
  | patch user change =>
      have hnone : ∀ {e : ApiError}, (none : Option (Except ApiError StatusCode)) ≠
          some (.error e) := by
        simp
      refine (fetchHostedSession_follows (fun past _ =>
        ¬ commits sessionId (.patch user change) past) fun past s hpast => ?_).always_bind
        (fun past => ¬ Committed (commits sessionId) (.patch user change) past) ?_
        (not_committed_nil _) ?_ ?_
      · show ¬ past.length = patchReads sessionId user past
        omega
      · intro past sent hcommits hok hcommitted
        exact (committed_snoc_iff.mp hcommitted).elim hok hcommits
      · exact fun answer past hok e _ => hok
      · intro row past hok hpast
        apply always_fetch_bind fun e h => absurd h hnone
        intro s
        cases s.db.openState sessionId with
        | none =>
            intro e _ hcommitted
            refine (committed_snoc_iff.mp hcommitted).elim hok ?_
            show ¬ past.length = patchReads sessionId user past
            omega
        | some text =>
            apply always_write_bind fun e h => absurd h hnone
            intro t
            refine ⟨fun e h => absurd h hnone, fun u =>
              ⟨fun e h => absurd h hnone, fun v e h => ?_⟩⟩
            cases h

end Statements

/-! ## What the statements do -/

section Frames

variable {json : JsonText} {sessionId : String}

theorem find?_updateGameSession (f : GameSessionRow → GameSessionRow)
    (hf : ∀ row, (f row).id = row.id) (db : Db) :
    (updateGameSession sessionId f hf db).gameSessions.find? sessionId =
      (db.gameSessions.find? sessionId).map f := by
  show (db.gameSessions.update _ f hf).find? sessionId = _
  rw [Table.find?_update]
  cases hrow : db.gameSessions.find? sessionId with
  | none => rfl
  | some row =>
      have hid : row.id = sessionId := (Table.find?_eq_some_iff.mp hrow).2
      simp [hid]

@[simp]
theorem stateText_setStateJson (text : String) (db : Db) :
    (setStateJson sessionId text db).stateText sessionId =
      (db.stateText sessionId).map fun _ => text := by
  rw [Db.stateText, setStateJson, find?_updateGameSession, Option.map_map, Db.stateText,
    Option.map_map]
  rfl

@[simp]
theorem isOpen_setStateJson (text : String) (db : Db) :
    (setStateJson sessionId text db).isOpen sessionId = db.isOpen sessionId := by
  rw [Db.isOpen, setStateJson, find?_updateGameSession, Option.any_map, Db.isOpen]
  rfl

@[simp]
theorem stateText_setEndedAt (now : String) (db : Db) :
    (setEndedAt sessionId now db).stateText sessionId = db.stateText sessionId := by
  rw [Db.stateText, setEndedAt, find?_updateGameSession, Option.map_map, Db.stateText]
  rfl

@[simp]
theorem isOpen_setEndedAt (now : String) (db : Db) :
    (setEndedAt sessionId now db).isOpen sessionId = false := by
  rw [Db.isOpen, setEndedAt, find?_updateGameSession, Option.any_map]
  cases db.gameSessions.find? sessionId <;> rfl

theorem Db.stateText_congr {db db' : Db} (h : db.gameSessions = db'.gameSessions) :
    db.stateText sessionId = db'.stateText sessionId := by
  rw [Db.stateText, Db.stateText, h]

theorem Db.isOpen_congr {db db' : Db} (h : db.gameSessions = db'.gameSessions) :
    db.isOpen sessionId = db'.isOpen sessionId := by
  rw [Db.isOpen, Db.isOpen, h]

variable {request : GameRequest} {past : List (Sent AppState)} {sent : Sent AppState}

/-- Only the statement at which a patch takes effect changes the state. -/
theorem GameSent.stateText_eq (h : GameSent json sessionId request past sent)
    (hcommits : ¬ request.commits sessionId past) :
    sent.after.db.stateText sessionId = sent.before.db.stateText sessionId := by
  cases h with
  | aside _ _ hrows _ => exact Db.stateText_congr hrows
  | update hnow _ _ => exact absurd hnow hcommits
  | copy _ _ h => rw [Sent.after, h]; rfl
  | close h =>
      rw [Sent.after, h]
      exact stateText_setEndedAt _ _
  | remove h => rw [Sent.after, h]; rfl

/-- A session that is over stays over. -/
theorem GameSent.keeps_over (h : GameSent json sessionId request past sent)
    (hover : sent.before.db.isOpen sessionId = false) : sent.after.db.isOpen sessionId = false := by
  cases h with
  | aside _ _ hrows _ => rwa [Db.isOpen_congr hrows]
  | update _ _ h =>
      rw [Sent.after, h]
      exact (isOpen_setStateJson _ _).trans hover
  | copy _ _ h => rwa [Sent.after, h]
  | close h =>
      rw [Sent.after, h]
      exact isOpen_setEndedAt _ _
  | remove h => rwa [Sent.after, h]

/-- A patch that writes rightly makes of the state what it asks for, and nothing new once
the session is over. -/
theorem GameSent.stateText_of_commits (h : GameSent json sessionId request past sent)
    (hcommits : request.commits sessionId past)
    (hright : request.WritesRight json sessionId past sent.before) :
    sent.after.db.stateText sessionId =
        (sent.before.db.stateText sessionId).map (request.apply json) ∧
      (sent.before.db.isOpen sessionId = false →
        sent.after.db.stateText sessionId = sent.before.db.stateText sessionId) := by
  cases h with
  | aside hnot _ _ _ => exact absurd hcommits hnot
  | @update user change _ _ text _ hread h =>
      rw [Sent.after, h, written, withDb_db, stateText_setStateJson]
      cases hnow : sent.before.db.stateText sessionId with
      | none => exact ⟨rfl, fun _ => rfl⟩
      | some now =>
          rcases (hright text hread now hnow).1 hcommits with ⟨hsame, hover⟩
          constructor
          · show some (patchedText json text change) = some (patchedText json now change)
            rw [hsame]
          · intro hclosed
            show some (patchedText json text change) = some now
            rw [hover hclosed]
  | @copy user change _ _ text hcopies _ _ =>
      have hlength : past.length = patchReads sessionId user past := hcommits
      have hlength' : past.length = patchReads sessionId user past + 1 := hcopies
      omega
  | close _ => exact hcommits.elim
  | remove _ => exact hcommits.elim

end Frames

/-! ## Runs -/

section Runs

variable {json : JsonText} {sessionId : String} {s t : AppState}
  {history : List (Event GameRequest AppState)}

theorem once_commits : Once (GameRequest.commits sessionId) := by
  rintro request past hcommits ⟨before, sent, ⟨more, rfl⟩, hbefore⟩
  cases request with
  | finish now user => exact hcommits
  | patch user change =>
      have hlength : before.length = patchReads sessionId user before := hbefore
      have hall : (before ++ [sent] ++ more).length =
          patchReads sessionId user (before ++ [sent] ++ more) := hcommits
      have hne : before ≠ [] := ne_nil_of_reads (hlength.ge.trans (Nat.le_succ _))
      rw [List.append_assoc, patchReads_append hne] at hall
      simp at hall
      omega

theorem WritesRight.effects (hright : WritesRight json sessionId history)
    (h : Interleaving (GameSent json sessionId) s history t) :
    Effects (GameRequest.commits sessionId) (fun s : AppState => s.db.stateText sessionId)
      (fun request => Option.map (request.apply json)) history where
  commit pre e post hsplit hcommits :=
    ((h.split hsplit).2.1.stateText_of_commits hcommits (hright pre e post hsplit)).1
  aside _ _ _ hsplit hcommits := (h.split hsplit).2.1.stateText_eq hcommits

/-- The patch of this event has written what the row holds and is about to make its
copy. -/
def AboutToCopy (json : JsonText) (sessionId : String) (history : List (Event GameRequest AppState))
    (s : AppState) (e : Event GameRequest AppState) : Prop :=
  e ∈ history ∧ ∃ user change text, e.request = .patch user change ∧
    e.request.copies sessionId (sentBy e.job history) ∧
    textRead sessionId user (sentBy e.job history) = some text ∧
    s.db.stateText sessionId = some (patchedText json text change)

/-- Others do not keep a patch from making its copy. -/
theorem AboutToCopy.snoc {u : AppState} {e last : Event GameRequest AppState}
    (h : AboutToCopy json sessionId history t e) (hother : last.job ≠ e.job)
    (hsame : u.db.stateText sessionId = t.db.stateText sessionId) :
    AboutToCopy json sessionId (history ++ [last]) u e := by
  rcases h with ⟨he, user, change, text, hrequest, hready, hread, htext⟩
  refine ⟨List.mem_append_left _ he, user, change, text, hrequest, ?_, ?_, hsame.trans htext⟩
  · rwa [sentBy_snoc_of_ne hother]
  · rwa [sentBy_snoc_of_ne hother]

theorem copyRight_congr (hrows : t.db.gameSessions = s.db.gameSessions)
    (hgames : t.activeGameSessions = s.activeGameSessions) (h : s.CopyRight json sessionId) :
    t.CopyRight json sessionId := by
  rwa [AppState.CopyRight, hgames, Db.stateText_congr hrows]

/-- The copy is right, or it is about to be made. -/
theorem copy_inv (h : Interleaving (GameSent json sessionId) s history t)
    (hright : WritesRight json sessionId history) (hstart : s.CopyRight json sessionId)
    (hopen : t.db.isOpen sessionId = true) :
    t.CopyRight json sessionId ∨ ∃ e, AboutToCopy json sessionId history t e := by
  induction h with
  | idle => exact .inl hstart
  | @exec history t last hrun hbefore hown hgood ih =>
      subst hbefore
      have hpast := hright history last [] rfl
      have hright' : WritesRight json sessionId history := by
        rintro pre e post rfl
        exact hright pre e (post ++ [last]) (by simp)
      have hopen' : last.before.db.isOpen sessionId = true := by
        by_contra hover
        rw [Bool.not_eq_true] at hover
        rw [hgood.keeps_over hover] at hopen
        cases hopen
      have ih' := ih hright' hopen'
      generalize hrequest : last.request = request at hgood hpast
      cases hgood with
      | aside hcommits hcopies hrows hgames =>
          rcases ih' with hcopy | ⟨e, hready⟩
          · exact .inl (copyRight_congr hrows hgames hcopy)
          · refine .inr ⟨e, hready.snoc ?_ (Db.stateText_congr hrows)⟩
            rintro hjob
            rcases hready with ⟨he, user, change, text, -, hcopies', -⟩
            rw [hown e he hjob.symm, hrequest, ← hjob] at hcopies'
            exact hcopies hcopies'
      | @update user change _ _ text hcommits hread h =>
          have hafter : last.after.db.stateText sessionId =
              (last.before.db.stateText sessionId).map fun _ => patchedText json text change := by
            rw [Sent.after, h]
            exact stateText_setStateJson _ _
          rcases copies_snoc hcommits last.toSent with ⟨hcopies, hsame⟩
          cases hnow : last.before.db.stateText sessionId with
          | none =>
              left
              intro session _ text' htext'
              rw [hafter, hnow] at htext'
              cases htext'
          | some now =>
              right
              refine ⟨last, by simp, user, change, text, hrequest, ?_, ?_, ?_⟩
              · rwa [hrequest, sentBy_snoc_self]
              · rw [sentBy_snoc_self, hsame, hread]
              · rw [hafter, hnow]
                rfl
      | @copy user change _ _ text hcopies hread h =>
          have hdb : last.after.db = last.before.db := by
            rw [Sent.after, h]
            rfl
          -- The copy is what the row holds, or somebody else has still to make it.
          have hcopied : (∀ now ∈ last.before.db.stateText sessionId,
              patchedText json text change = now) → last.after.CopyRight json sessionId := by
            intro hsame session hsession now hnow
            rw [hdb] at hnow
            rw [← hsame now hnow]
            rw [Sent.after, h] at hsession
            simp only [setInMemoryState, if_true, Option.mem_def,
              Option.map_eq_some_iff] at hsession
            rcases hsession with ⟨old, -, rfl⟩
            rfl
          rcases ih' with hcopy | ⟨e, hready⟩
          · exact .inl (hcopied fun now hnow => (hpast text hread now hnow).2 hcopies hopen' hcopy)
          · by_cases hjob : last.job = e.job
            · left
              rcases hready with ⟨he, user', change', text', hrequest', -, hread', htext⟩
              rw [hown e he hjob.symm, hrequest] at hrequest'
              cases hrequest'
              rw [← hjob, hread] at hread'
              cases hread'
              apply hcopied
              intro now hnow
              rw [htext] at hnow
              exact Option.some.inj hnow
            · exact .inr ⟨e, hready.snoc hjob (by rw [hdb])⟩
      | close h =>
          rw [Sent.after, h] at hopen
          exact absurd (hopen.symm.trans (isOpen_setEndedAt _ _)) (by simp)
      | remove h =>
          left
          intro session hsession
          rw [Sent.after, h] at hsession
          simp [removeInMemory] at hsession

theorem gameRun_sound (json : JsonText) (sessionId : String) (moves : List (Move GameRequest))
    (s : AppState) :
    (gameRun json sessionId moves s).Sound (GameRequest.handler json sessionId)
      (GameSent json sessionId) (GameRequest.Done sessionId) s :=
  Server.sound_serve GameRequest.handler_follows moves s

/-- Answered patches are those that were refused and those that have taken effect. -/
theorem committed_iff_accepted {moves : List (Move GameRequest)} {job : ℕ} {request : GameRequest}
    (hrequest : (gameRun json sessionId moves s).request? job = some request)
    (hpatch : request.isPatch = true)
    (hanswer : (gameRun json sessionId moves s).answer? job ≠ none) :
    Committed (GameRequest.commits sessionId) request
        (sentBy job (gameRun json sessionId moves s).history) ↔
      (gameRun json sessionId moves s).answer? job = some (.ok .noContent) := by
  have hsound := gameRun_sound json sessionId moves s
  cases request with
  | finish now user => cases hpatch
  | patch user change =>
      rcases hfound : (gameRun json sessionId moves s).answer? job with _ | e | answer
      · exact absurd hfound hanswer
      · have hrefused := Server.always_serve GameRequest.handler_follows GameRequest.handler_always
          moves s hrequest e hfound
        exact iff_of_false hrefused (by simp)
      · rcases hsound.returned hrequest hfound with ⟨rfl, hcommitted⟩
        exact iff_of_true hcommitted rfl

theorem serial_of_writesRight {moves : List (Move GameRequest)}
    (hright : WritesRight json sessionId (gameRun json sessionId moves s).history) :
    Serial json sessionId s (gameRun json sessionId moves s) := by
  have hsound := gameRun_sound json sessionId moves s
  rcases hsound.serial once_commits (hright.effects hsound.run) with ⟨order, hnodup, hmem, htext⟩
  refine ⟨order, hnodup, ?_, ?_, htext⟩
  · intro job request hentry
    rcases (hmem job request).mp hentry with ⟨hrequest, before, sent, -, hcommits⟩
    refine ⟨hrequest, ?_⟩
    cases request with
    | patch user change => rfl
    | finish now user => exact hcommits.elim
  · intro job request hrequest hpatch hanswer
    rw [hmem, and_iff_right hrequest, committed_iff_accepted hrequest hpatch hanswer]

/-- Nobody is about to make a copy if all copies have been made. -/
theorem Copied.not_aboutToCopy {moves : List (Move GameRequest)}
    (h : Copied sessionId (gameRun json sessionId moves s)) (e : Event GameRequest AppState) :
    ¬ AboutToCopy json sessionId (gameRun json sessionId moves s).history t e := by
  rintro ⟨he, user, change, text, -, hcopies, -⟩
  exact h e.job e.request ((gameRun_sound json sessionId moves s).request?_eq he) hcopies

/-- Once a request to end the session has been answered, the session is over. -/
theorem over_of_finished {moves : List (Move GameRequest)} {job : ℕ} {now user : String}
    {answer : StatusCode}
    (hrequest : (gameRun json sessionId moves s).request? job = some (.finish now user))
    (hanswer : (gameRun json sessionId moves s).answer? job = some (.ok answer)) :
    (gameRun json sessionId moves s).state.db.isOpen sessionId = false := by
  have hsound := gameRun_sound json sessionId moves s
  rcases hsound.returned hrequest hanswer with ⟨-, sent, hsent, hstatement⟩
  rcases mem_sentBy.mp hsent with ⟨e, he, -, rfl⟩
  refine hsound.run.kept (fun s => s.db.isOpen sessionId = false) ?_ he ?_
  · intro other hother
    rcases hsound.run.good_of_mem hother with ⟨past, hgood⟩
    exact hgood.keeps_over
  · rw [Sent.after, hstatement]
    exact isOpen_setEndedAt _ _

theorem copied_of_writesRight {moves : List (Move GameRequest)}
    (hstart : s.CopyRight json sessionId)
    (hright : WritesRight json sessionId (gameRun json sessionId moves s).history)
    (hopen : (gameRun json sessionId moves s).state.db.isOpen sessionId = true)
    (hcopied : Copied sessionId (gameRun json sessionId moves s)) :
    (gameRun json sessionId moves s).state.CopyRight json sessionId := by
  have hrun := (gameRun_sound json sessionId moves s).run
  rcases copy_inv hrun hright hstart hopen with hcopy | ⟨e, hready⟩
  · exact hcopy
  · exact absurd hready (hcopied.not_aboutToCopy e)

theorem final_of_writesRight {first rest : List (Move GameRequest)} {job : ℕ} {now user : String}
    (hright : WritesRight json sessionId (gameRun json sessionId (first ++ rest) s).history)
    (hrequest : (gameRun json sessionId first s).request? job = some (.finish now user))
    (hanswer : (gameRun json sessionId first s).answer? job = some (.ok .noContent)) :
    (gameRun json sessionId (first ++ rest) s).state.db.stateText sessionId =
      (gameRun json sessionId first s).state.db.stateText sessionId := by
  have hover := over_of_finished hrequest hanswer
  have hrun := (gameRun_sound json sessionId (first ++ rest) s).run
  refine (Server.kept_serve (fun u => u.db.isOpen sessionId = false ∧ u.db.stateText sessionId =
    (gameRun json sessionId first s).state.db.stateText sessionId)
    GameRequest.handler_follows ?_ ⟨hover, rfl⟩).2
  rintro mid e later hsplit - ⟨hover, htext⟩
  have hgood := (hrun.split hsplit).2.1
  refine ⟨hgood.keeps_over hover, Eq.trans ?_ htext⟩
  by_cases hcommits : e.request.commits sessionId (sentBy e.job mid)
  · exact (hgood.stateText_of_commits hcommits (hright mid e later hsplit)).2 hover
  · exact hgood.stateText_eq hcommits

theorem stateText_of_openState {db : Db} {text : String}
    (h : db.openState sessionId = some text) :
    db.stateText sessionId = some text ∧ db.isOpen sessionId = true := by
  obtain ⟨row, hrow, rfl⟩ := Option.map_eq_some_iff.mp h
  obtain ⟨hfind, hopen⟩ := Option.filter_eq_some_iff.mp hrow
  rw [Db.stateText, Db.isOpen, hfind]
  exact ⟨rfl, hopen⟩

/-- What a patch reads last leaves the session alone. -/
theorem GameSent.rows_of_reads {change : Payload} {past : List (Sent AppState)}
    {sent : Sent AppState} (h : GameSent json sessionId (.patch user change) past sent)
    (hreads : past.length + 1 = patchReads sessionId user past) :
    sent.after.db.gameSessions = sent.before.db.gameSessions := by
  cases h with
  | aside _ _ hrows _ => exact hrows
  | update hcommits _ _ =>
      have hlength : past.length = patchReads sessionId user past := hcommits
      omega
  | copy hcopies _ _ =>
      have hlength : past.length = patchReads sessionId user past + 1 := hcopies
      omega

/-- What a request has sent last, if nobody else has sent anything since. -/
theorem last_of_run {init : List (Event GameRequest AppState)} {e last : Event GameRequest AppState}
    (hrun : Interleaving (GameSent json sessionId) s (init ++ [last]) e.before)
    (hown : ∀ other ∈ init ++ [last], other.job = e.job → other.request = e.request)
    (hjob : last.job = e.job) :
    sentBy e.job (init ++ [last]) = sentBy e.job init ++ [last.toSent] ∧
      e.before = last.after ∧
      GameSent json sessionId e.request (sentBy e.job init) last.toSent := by
  refine ⟨hjob ▸ sentBy_snoc_self init last, ?_, ?_⟩
  · exact hrun.kept_since (fun u => u = last.after) rfl (by simp) rfl
  · have hgood := (hrun.split rfl).2.1
    rwa [hown last (by simp) hjob, hjob] at hgood

/-- A patch that nobody disturbs writes what the row calls for. -/
theorem Unbroken.writesRight (hrun : Interleaving (GameSent json sessionId) s history t)
    (h : Unbroken sessionId history) : WritesRight json sessionId history := by
  intro pre e post hsplit
  obtain ⟨hpre, -, hown⟩ := hrun.split hsplit
  cases hrequest : e.request with
  | finish now user => trivial
  | patch user change =>
      intro text hread now hnow
      rw [Option.mem_def] at hread hnow
      have htwo := two_le_patchReads sessionId user (sentBy e.job pre)
      constructor
      · intro hcommits
        obtain ⟨init, last, rfl, hjob⟩ := h pre e post hsplit (.inl (hrequest ▸ hcommits))
        obtain ⟨hsent, hbefore, hgood⟩ := last_of_run hpre hown hjob
        rw [hrequest] at hgood
        rw [hsent] at hread hcommits htwo
        have hlength : (sentBy e.job init ++ [last.toSent]).length =
            patchReads sessionId user (sentBy e.job init ++ [last.toSent]) := hcommits
        rw [← hlength, List.length_append, List.length_singleton] at htwo
        have hne : sentBy e.job init ≠ [] := List.ne_nil_of_length_pos (by omega)
        have hreads : (sentBy e.job init).length + 1 =
            patchReads sessionId user (sentBy e.job init) := by
          rw [← patchReads_append hne, ← hlength, List.length_append, List.length_singleton]
        rw [textRead_read hreads] at hread
        obtain ⟨hstored, hopen⟩ := stateText_of_openState hread
        have hrows : e.before.db.gameSessions = last.before.db.gameSessions :=
          hbefore ▸ hgood.rows_of_reads hreads
        rw [Db.stateText_congr hrows, hstored] at hnow
        rw [Db.isOpen_congr hrows, hopen]
        cases hnow
        exact ⟨rfl, nofun⟩
      · intro hcopies _ _
        obtain ⟨init, last, rfl, hjob⟩ := h pre e post hsplit (.inr (hrequest ▸ hcopies))
        obtain ⟨hsent, hbefore, hgood⟩ := last_of_run hpre hown hjob
        rw [hrequest] at hgood
        rw [hsent] at hread hcopies htwo
        have hlength : (sentBy e.job init ++ [last.toSent]).length =
            patchReads sessionId user (sentBy e.job init ++ [last.toSent]) + 1 := hcopies
        have hlast : (sentBy e.job init ++ [last.toSent]).length =
            (sentBy e.job init).length + 1 := by
          rw [List.length_append, List.length_singleton]
        have hne : sentBy e.job init ≠ [] := List.ne_nil_of_length_pos (by omega)
        rw [patchReads_append hne] at hlength
        have hwrites : (sentBy e.job init).length =
            patchReads sessionId user (sentBy e.job init) := by omega
        rw [textRead_append hwrites.ge] at hread
        cases hgood with
        | aside hcommits _ _ _ => exact absurd hwrites hcommits
        | copy hcopied _ _ =>
            have hmore : (sentBy e.job init).length =
                patchReads sessionId user (sentBy e.job init) + 1 := hcopied
            omega
        | update _ hstored hstatement =>
            rw [hread] at hstored
            cases hstored
            rw [hbefore, Sent.after, hstatement] at hnow
            change (setStateJson _ _ _).stateText sessionId = some now at hnow
            rw [stateText_setStateJson] at hnow
            obtain ⟨_, -, rfl⟩ := Option.map_eq_some_iff.mp hnow
            rfl

end Runs

/-- As long as everybody writes rightly, any number of patches and requests to end the
session amount to the accepted patches being applied one after the other; the copy in
memory follows, and nothing changes after the end. -/
theorem mergesRight_of_writesRight (json : JsonText) (sessionId : String)
    (moves : List (Move GameRequest)) (s : AppState) (hstart : s.CopyRight json sessionId)
    (hright : WritesRight json sessionId (gameRun json sessionId moves s).history) :
    MergesRight json sessionId moves s where
  serial := serial_of_writesRight hright
  copied := copied_of_writesRight hstart hright
  final := by
    rintro first rest rfl job now user hrequest hanswer
    exact final_of_writesRight hright hrequest hanswer

/-- So do patches of which each is read, written and copied without anybody in between. -/
theorem mergesRight_of_unbroken (json : JsonText) (sessionId : String)
    (moves : List (Move GameRequest)) (s : AppState) (hstart : s.CopyRight json sessionId)
    (h : Unbroken sessionId (gameRun json sessionId moves s).history) :
    MergesRight json sessionId moves s := by
  have hright := h.writesRight (gameRun_sound json sessionId moves s).run
  refine ⟨serial_of_writesRight hright, copied_of_writesRight hstart hright, ?_⟩
  rintro first rest rfl job now user hrequest hanswer
  exact final_of_writesRight hright hrequest hanswer

def scoreChange : Payload := .object [("score", .other "1")]

def turnChange : Payload := .object [("turn", .other "2")]

/-- The texts of the states below. -/
def playedStates : List (String × Payload) :=
  [("\x7b\x7d", .object []),
    ("\x7b\"score\":1\x7d", scoreChange),
    ("\x7b\"turn\":2\x7d", turnChange),
    ("\x7b\"score\":1,\"turn\":2\x7d", .object [("score", .other "1"), ("turn", .other "2")]),
    ("\x7b\"score\":1,\"turn\":2\x7d", .object [("turn", .other "2"), ("score", .other "1")])]

def playedJson : JsonText where
  read text := playedStates.lookup text
  write state := ((playedStates.find? (·.2 = state)).map (·.1)).getD "null"

/-- A hub with a game that has just been started. -/
def gameHub : AppState where
  db := { Db.migrated with
    gameSessions := ⟨[⟨"game", "general", "chess", "host", "\x7b\x7d", "0", none⟩], by decide⟩ }
  activeGameSessions id :=
    if id = "game" then some ⟨"game", "general", "chess", "host", ["host"], .object []⟩ else none

/-- The host patches twice at the same time, but the second patch reads what the first
one has written, and then ends the game. -/
def patchesInOrder : List (Move GameRequest) :=
  [.start (.patch "host" scoreChange), .start (.patch "host" turnChange), .exec 0, .exec 1,
    .exec 0, .exec 0, .exec 1, .exec 1, .exec 0, .exec 1, .exec 1, .exec 0,
    .start (.finish "9" "host"), .exec 2, .exec 2, .exec 2, .exec 2]

theorem patchesInOrder_mergesRight : MergesRight playedJson "game" patchesInOrder gameHub :=
  mergesRight_of_writesRight playedJson "game" patchesInOrder gameHub (by decide +kernel)
    (forall_split_iff.mpr (by decide +kernel))

def bothPatches : List (ℕ × GameRequest) :=
  [(0, .patch "host" scoreChange), (1, .patch "host" turnChange)]

/-- Both patches read the state before either has written. -/
def patchesAtOnce : List (Move GameRequest) :=
  [.start (.patch "host" scoreChange), .start (.patch "host" turnChange)] ++
    (List.replicate 5 [.exec 0, .exec 1]).flatten

/-- Both patches are accepted, and the score is lost. -/
theorem patchesAtOnce_not_mergesRight :
    gameHub.CopyRight playedJson "game" ∧
    ¬ MergesRight playedJson "game" patchesAtOnce gameHub := by
  refine ⟨by decide +kernel, ?_⟩
  rintro ⟨⟨order, hnodup, hmem, haccepted, htext⟩, -, -⟩
  have hrequests : ∀ job request, (gameRun playedJson "game" patchesAtOnce gameHub).request? job =
      some request ↔ (job, request) ∈ bothPatches := by
    intro job request
    rw [gameRun, Server.request?_serve]
    have hstarted : patchesAtOnce.filterMap Move.request? = bothPatches.map Prod.snd := by decide
    rw [hstarted]
    rcases job with _ | _ | job <;> simp [bothPatches, eq_comm]
  have hperm : order.Perm bothPatches := by
    rw [List.perm_ext_iff_of_nodup hnodup.of_map (by decide)]
    rintro ⟨job, request⟩
    constructor
    · exact fun hentry => (hrequests job request).mp (hmem job request hentry).1
    · intro hentry
      have hanswer : ∀ entry ∈ bothPatches, entry.2.isPatch = true ∧
          (gameRun playedJson "game" patchesAtOnce gameHub).answer? entry.1 =
            some (.ok .noContent) := by
        decide +kernel
      rcases hanswer _ hentry with ⟨hpatch, hok⟩
      refine (haccepted job request ((hrequests job request).mpr hentry) hpatch ?_).mpr hok
      rw [hok]
      simp
  have hlost : ∀ order ∈ bothPatches.permutations',
      (gameRun playedJson "game" patchesAtOnce gameHub).state.db.stateText "game" ≠
        order.foldl (fun text entry => text.map (entry.2.apply playedJson))
          (gameHub.db.stateText "game") := by
    decide +kernel
  exact hlost order (List.mem_permutations'.mpr hperm) htext

end Voxply.Hub
