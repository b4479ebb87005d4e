/-
# Revocation of a user's sessions

The admin revokes the sessions that a user has open.  From then on a session of that
user is live only if the user has logged in again, or if it was renewed from such a
session.  The farm does not look at the session of a token that it renews, so this holds
of the runs in which nobody renews a token whose session is no longer live.

Requests run side by side; the clock moves on between their statements.
-/

import Voxply.Farm.Auth
import Voxply.Farm.TokenAgreement
import Voxply.Math.Progress

namespace Voxply.Farm

open Voxply.Math Voxply.Identity
open Voxply.Hub (SqlError StatusCode)

/-! ## Requests -/

inductive SessionRequest where
  | tick (seconds : ℕ)
  | challenge (nonce : List UInt8) (publicKey : String)
  | verify (jtiBytes : List UInt8) (req : VerifyRequest)
  | renew (jtiBytes : List UInt8) (bearer : Bearer)
  | revokeUserSessions (bearer : Bearer) (pubkey : String)
  | revokeCheck (jti : String)

inductive SessionAnswer where
  | done
  | text (s : String)
  | count (n : ℕ)
  | revoked (b : Bool)
  deriving DecidableEq

/-- Time passes. -/
def advance (seconds : ℕ) (s : FarmState) : FarmState :=
  { s with clock := s.clock + seconds }

/-- The requests, and the passing of time as one of them. -/
def SessionRequest.handler (farm : FarmConfig) : SessionRequest → Handler SessionAnswer
  | .tick seconds => do
      .exec (advance seconds)
      pure .done
  | .challenge nonce publicKey => do
      let challengeHex ← Farm.challenge nonce publicKey
      pure (.text challengeHex)
  | .verify jtiBytes req => do
      let token ← Farm.verify farm jtiBytes req
      pure (.text token)
  | .renew jtiBytes bearer => do
      let token ← Farm.renew farm jtiBytes bearer
      pure (.text token)
  | .revokeUserSessions bearer pubkey => do
      let revoked ← Farm.revokeUserSessions farm bearer pubkey
      pure (.count revoked)
  | .revokeCheck jti => do
      let revoked ← Farm.revokeCheck jti
      pure (.revoked revoked)

abbrev SessionEvent := Event SessionRequest FarmState

/-- Follow a schedule of requests. -/
def sessionRun (farm : FarmConfig) (moves : List (Move SessionRequest)) (s : FarmState) :
    Server SessionRequest FarmState ApiError SessionAnswer :=
  serve (SessionRequest.handler farm) moves s

/-! ## Where sessions come from -/

/-- The session that an event has stored. -/
def newSession? (e : SessionEvent) : Option FarmSessionRow :=
  e.after.db.farmSessions.rows.find? fun row => !e.before.db.farmSessions.has row.jti

/-- The token that a renewal has accepted, given what it has sent. -/
def renewed? (farm : FarmConfig) : SessionRequest → List (Sent FarmState) → Option FarmTokenPayload
  | .renew _ bearer, check :: _ =>
      bearer.bind fun token => (farm.verifyToken check.before.clock token).toOption
  | _, _ => none

/-- `revoke_user_sessions` up to its update, for which it has read the clock. -/
def readyToRevoke (farm : FarmConfig) (bearer : Bearer) (pubkey : String) :
    Handler Int := do
  let _ ← requireAdmin farm bearer
  let exists? ← fetch (·.farmUsers.has pubkey)
  .ensure (exists? = true) (jsonError .notFound "user_not_found")
  unixNow

/-- The user whose sessions the next statement revokes. -/
def revokes? (farm : FarmConfig) : SessionRequest → List (Sent FarmState) → Option String
  | .revokeUserSessions bearer pubkey, past =>
      ((readyToRevoke farm bearer pubkey).returned? past).map fun _ => pubkey
  | _, _ => none

/-- The session that a check reports as not revoked, with its last statement. -/
def reportsLive? : SessionRequest → List (Sent FarmState) → Option String
  | .revokeCheck jti, past =>
      if (revokeCheck jti).returned? past = some false then some jti else none
  | _, _ => none

/-- A chain of renewals that starts with a login. Its events come after the `earlier`
ones. -/
inductive Stems (farm : FarmConfig) (earlier later : List SessionEvent) (user : String) :
    String → Prop
  | login (e : SessionEvent) (jtiBytes : List UInt8) (req : VerifyRequest) (row : FarmSessionRow)
      (he : e ∈ later) (hrequest : e.request = .verify jtiBytes req)
      (hrow : newSession? e = some row) (huser : row.publicKey = user) :
      Stems farm earlier later user row.jti
  | renewal (pre : List SessionEvent) (e : SessionEvent) (post : List SessionEvent)
      (old : FarmTokenPayload) (row : FarmSessionRow) (hsplit : later = pre ++ e :: post)
      (hold : renewed? farm e.request (sentBy e.job (earlier ++ pre)) = some old)
      (hrow : newSession? e = some row) (huser : row.publicKey = user)
      (hstems : Stems farm earlier later user old.jti) : Stems farm earlier later user row.jti

/-- After the sessions of a user have been revoked, a check that is made reports a session
of that user as live only if it goes back to a later login. -/
def RevocationFinal (farm : FarmConfig) (history : List SessionEvent) : Prop :=
  ∀ pre revocation later check post, history = pre ++ revocation :: (later ++ check :: post) →
    ∀ user ∈ revokes? farm revocation.request (sentBy revocation.job pre),
    ∀ jti ∈ reportsLive? check.request
      (sentBy check.job (pre ++ revocation :: (later ++ [check]))),
      sentBy check.job (pre ++ [revocation]) = [] →
      (∃ row ∈ check.before.db.farmSessions.find? jti, row.publicKey = user) →
        Stems farm (pre ++ [revocation]) later user jti

/-- Whoever renews a token after the sessions of its user have been revoked does so while
the session of the token is live. -/
def RenewsLive (farm : FarmConfig) (history : List SessionEvent) : Prop :=
  ∀ before e post, history = before ++ e :: post →
    ∀ row ∈ newSession? e, ∀ old ∈ renewed? farm e.request (sentBy e.job before),
    ∀ pre revocation later, before = pre ++ revocation :: later →
      revokes? farm revocation.request (sentBy revocation.job pre) = some row.publicKey →
        ∃ session ∈ e.before.db.farmSessions.find? old.jti,
          session.publicKey = row.publicKey ∧ session.isActive e.before.clock = true

/-- The same by position. -/
def RenewsLiveAt (farm : FarmConfig) (history : List SessionEvent) : Prop :=
  ∀ (n : ℕ) (hn : n < history.length), ∀ row ∈ newSession? (history.get ⟨n, hn⟩),
    ∀ old ∈ renewed? farm (history.get ⟨n, hn⟩).request
      (sentBy (history.get ⟨n, hn⟩).job (history.take n)),
    ∀ (m : ℕ) (hm : m < (history.take n).length),
      revokes? farm ((history.take n).get ⟨m, hm⟩).request
        (sentBy ((history.take n).get ⟨m, hm⟩).job ((history.take n).take m)) =
          some row.publicKey →
        ∃ session ∈ (history.get ⟨n, hn⟩).before.db.farmSessions.find? old.jti,
          session.publicKey = row.publicKey ∧
            session.isActive (history.get ⟨n, hn⟩).before.clock = true

instance decidableRenewsLiveAt (farm : FarmConfig) (history : List SessionEvent) :
    Decidable (RenewsLiveAt farm history) := by
  unfold RenewsLiveAt
  infer_instance

theorem renewsLive_iff {farm : FarmConfig} {history : List SessionEvent} :
    RenewsLive farm history ↔ RenewsLiveAt farm history := by
  rw [RenewsLive, forall_split_iff (p := fun before e => ∀ row ∈ newSession? e,
    ∀ old ∈ renewed? farm e.request (sentBy e.job before),
    ∀ pre revocation later, before = pre ++ revocation :: later → _)]
  simp only [forall_split_iff, RenewsLiveAt]

/-! ## Statements -/

/-- What the requests send. -/
inductive SessionSent (farm : FarmConfig) (request : SessionRequest) (past : List (Sent FarmState))
    (sent : Sent FarmState) : Prop
  | aside (hrevokes : revokes? farm request past = none)
      (h : sent.after.db.farmSessions = sent.before.db.farmSessions)
      (hclock : sent.before.clock ≤ sent.after.clock)
  | login (jtiBytes : List UInt8) (req : VerifyRequest) (row : FarmSessionRow)
      (hrequest : request = .verify jtiBytes req)
      (h : sent.statement = executed (insertSession row))
  | renewal (old : FarmTokenPayload) (row : FarmSessionRow)
      (hrevokes : revokes? farm request past = none)
      (hold : renewed? farm request past = some old) (huser : row.publicKey = old.sub)
      (h : sent.statement = executed (insertSession row))
  | revoke (user : String) (clock : Sent FarmState)
      (hrevokes : revokes? farm request past = some user) (hclock : clock ∈ past)
      (h : sent.statement = written (revokeSessions user clock.before.clock))

section Statements

variable {farm : FarmConfig} {past : List (Sent FarmState)} {request : SessionRequest}

/-- A query changes nothing. -/
theorem SessionSent.query (hrevokes : revokes? farm request past = none) (s : FarmState) :
    SessionSent farm request past ⟨id, s⟩ :=
  .aside hrevokes rfl le_rfl

theorem challenge_sessions {nonce : List UInt8} {publicKey : String} :
    (challenge nonce publicKey).Follows (SessionSent farm (.challenge nonce publicKey))
      (fun _ _ => True) [] := by
  apply follows_unixNow_bind (SessionSent.query rfl)
  intro s
  apply follows_write_bind
  · exact fun s => .aside rfl rfl le_rfl
  · exact fun s => trivial

theorem openSession_sessions {jtiBytes : List UInt8} {req : VerifyRequest} {now : Int} :
    (openSession farm jtiBytes req now).Follows (SessionSent farm (.verify jtiBytes req))
      (fun _ _ => True) past := by
  apply follows_write_bind (fun s => .aside rfl rfl le_rfl)
  intro s
  apply follows_write_bind (fun s => .aside rfl rfl le_rfl)
  intro s'
  apply follows_execute_bind
  · exact fun s => .login jtiBytes req _ rfl rfl
  · exact fun _ _ _ => trivial

theorem verify_sessions {jtiBytes : List UInt8} {req : VerifyRequest} :
    (verify farm jtiBytes req).Follows (SessionSent farm (.verify jtiBytes req))
      (fun _ _ => True) [] := by
  apply follows_unixNow_bind (SessionSent.query rfl)
  intro s
  apply follows_fetch_bind (SessionSent.query rfl)
  intro s'
  cases s'.db.pendingChallenges.find? req.publicKey with
  | none => trivial
  | some pending =>
      dsimp only
      split_ifs with hexpired
      · apply follows_write_bind (fun s => .aside rfl rfl le_rfl)
        exact fun _ => trivial
      · apply Prog.follows_ofExcept_bind
        exact fun _ _ => openSession_sessions

theorem renew_sessions {jtiBytes : List UInt8} {bearer : Bearer} :
    (renew farm jtiBytes bearer).Follows (SessionSent farm (.renew jtiBytes bearer))
      (fun _ _ => True) [] := by
  apply Prog.follows_ofExcept_bind
  intro token htoken
  have hbearer : bearer = some token := by
    cases bearer with
    | none => cases htoken
    | some found =>
        cases htoken
        rfl
  apply follows_unixNow_bind (SessionSent.query rfl)
  intro s
  apply Prog.follows_ofExcept_bind
  intro old hold
  have hverified : farm.verifyToken s.clock token = .ok old := mapError_eq_ok_iff.mp hold
  apply follows_unixNow_bind (SessionSent.query rfl)
  intro s'
  apply follows_execute_bind
  · intro s''
    refine .renewal old (newSession (hexEncode jtiBytes) old.sub s'.clock old.scope) rfl ?_ rfl rfl
    show bearer.bind _ = some old
    rw [hbearer, Option.bind_some]
    dsimp only
    rw [hverified]
    rfl
  · exact fun _ _ _ => trivial

theorem requireAuth_queries {bearer : Bearer} {post : FarmTokenPayload →
    List (Sent FarmState) → Prop} (hpost : ∀ payload s, post payload (past ++ [⟨id, s⟩])) :
    (requireAuth farm bearer).Follows (fun _ sent => sent.statement = id) post past := by
  apply Prog.follows_ofExcept_bind
  intro token _
  apply follows_unixNow_bind (fun _ => rfl)
  intro s
  exact Prog.follows_ofExcept fun payload _ => hpost payload s

theorem requireAdmin_queries {bearer : Bearer} :
    (requireAdmin farm bearer).Follows (fun _ sent => sent.statement = id)
      (fun _ _ => True) past := by
  have hauth : (requireAuth farm bearer).Follows (fun _ sent => sent.statement = id)
      (fun _ _ => True) past := requireAuth_queries fun _ _ => trivial
  apply hauth.bind_any
  intro payload past' _
  apply follows_fetch_bind (fun _ => rfl)
  intro s
  exact Prog.follows_ensure_bind fun _ => trivial

theorem revokeUserSessions_eq (bearer : Bearer) (pubkey : String) :
    revokeUserSessions farm bearer pubkey =
      (readyToRevoke farm bearer pubkey >>= fun now => updateSessions pubkey now) := by
  rw [revokeUserSessions, readyToRevoke, Prog.bind_assoc]
  congr 1
  funext _
  rw [Prog.bind_assoc]
  congr 1
  funext exists?
  rw [Prog.bind_assoc]

theorem revokeUserSessions_sessions {bearer : Bearer} {pubkey : String} :
    (revokeUserSessions farm bearer pubkey).Follows
      (SessionSent farm (.revokeUserSessions bearer pubkey)) (fun _ _ => True) [] := by
  have hready : (readyToRevoke farm bearer pubkey).Follows
      (fun _ sent => sent.statement = id)
      (fun now past => ∃ clock ∈ past, clock.before.clock = now) [] := by
    apply requireAdmin_queries.bind_any
    intro _ past' _
    apply follows_fetch_bind (fun _ => rfl)
    intro s
    apply Prog.follows_ensure_bind
    intro _
    apply Prog.follows_query (fun _ => rfl)
    exact fun s' => ⟨⟨id, s'⟩, by simp, rfl⟩
  rw [revokeUserSessions_eq]
  apply hready.cut
  · intro past sent hrunning hquery
    refine .aside ?_ ?_ ?_
    · show ((readyToRevoke farm bearer pubkey).returned? past).map _ = none
      rw [hrunning]
      rfl
    · rw [Sent.after, hquery]
      rfl
    · rw [Sent.after, hquery]
      rfl
  · rintro now past hreturned ⟨clock, hclock, rfl⟩
    intro s
    refine ⟨.revoke pubkey clock ?_ hclock rfl, trivial⟩
    show ((readyToRevoke farm bearer pubkey).returned? past).map _ = some pubkey
    rw [hreturned]
    rfl

theorem revokeCheck_sessions {jti : String} :
    (revokeCheck jti).Follows (SessionSent farm (.revokeCheck jti)) (fun _ _ => True) [] := by
  apply follows_unixNow_bind (SessionSent.query rfl)
  intro s
  apply follows_fetch_bind (SessionSent.query rfl)
  intro s'
  cases s'.db.farmSessions.find? jti <;> trivial

theorem SessionRequest.handler_follows (farm : FarmConfig) (request : SessionRequest) :
    (request.handler farm).Follows (SessionSent farm request) (fun _ _ => True) [] := by
  cases request with
  | tick seconds =>
      apply Prog.follows_exec_bind
      · intro s
        refine .aside rfl rfl ?_
        show s.clock ≤ s.clock + seconds
        omega
      · exact fun _ => trivial
  | challenge nonce publicKey => exact challenge_sessions.bind_any fun _ _ _ => trivial
  | verify jtiBytes req => exact verify_sessions.bind_any fun _ _ _ => trivial
  | renew jtiBytes bearer => exact renew_sessions.bind_any fun _ _ _ => trivial
  | revokeUserSessions bearer pubkey =>
      exact revokeUserSessions_sessions.bind_any fun _ _ _ => trivial
  | revokeCheck jti => exact revokeCheck_sessions.bind_any fun _ _ _ => trivial

end Statements

/-! ## Events -/

section Events

variable {farm : FarmConfig} {s t : FarmState} {history earlier later : List SessionEvent}
  {user jti : String}

/-- What an insertion has stored, or that it has stored nothing. -/
theorem insertSession_cases (row : FarmSessionRow) (s : FarmState) :
    ((executed (insertSession row) s).db.farmSessions = s.db.farmSessions) ∨
      (s.db.farmSessions.has row.jti = false ∧
        (executed (insertSession row) s).db.farmSessions.rows =
        s.db.farmSessions.rows ++ [row]) := by
  cases hinsert : insertSession row s.db with
  | error e =>
      rw [executed_of_error hinsert]
      exact .inl rfl
  | ok db =>
      obtain ⟨hfree, hrows, -⟩ := rows_insertSession hinsert
      rw [executed_of_ok hinsert]
      refine .inr ⟨?_, hrows⟩
      rw [Table.has_eq_false_iff]
      exact hfree

theorem newSession?_of_rows {e : SessionEvent} {row : FarmSessionRow}
    (hfree : e.before.db.farmSessions.has row.jti = false)
    (hrows : e.after.db.farmSessions.rows = e.before.db.farmSessions.rows ++ [row]) :
    newSession? e = some row := by
  have hknown : e.before.db.farmSessions.rows.find?
      (fun row => !e.before.db.farmSessions.has row.jti) = none := by
    rw [List.find?_eq_none]
    intro old hold
    simpa using Table.has_iff.mpr ⟨old, hold, rfl⟩
  rw [newSession?, hrows, List.find?_append, hknown, Option.none_or, List.find?_singleton]
  simp [hfree]

/-- A chain stays one as more happens. -/
theorem Stems.append (h : Stems farm earlier later user jti) (more : List SessionEvent) :
    Stems farm earlier (later ++ more) user jti := by
  induction h with
  | login e jtiBytes req row he hrequest hrow huser =>
      exact .login e jtiBytes req row (List.mem_append_left _ he) hrequest hrow huser
  | renewal pre e post old row hsplit hold hrow huser hstems ih =>
      refine .renewal pre e (post ++ more) old row ?_ hold hrow huser ih
      rw [hsplit, List.append_assoc, List.cons_append]

/-- The clock does not go back. -/
theorem SessionSent.clock_le {request : SessionRequest} {past : List (Sent FarmState)}
    {sent : Sent FarmState} (h : SessionSent farm request past sent) :
    sent.before.clock ≤ sent.after.clock := by
  rcases h with ⟨-, -, hclock⟩ | ⟨jtiBytes, req, row, -, h⟩ | ⟨old, row, -, -, -, h⟩ |
    ⟨user, clock, -, -, h⟩
  · exact hclock
  · rw [Sent.after, h, executed_clock]
  · rw [Sent.after, h, executed_clock]
  · rw [Sent.after, h, written_clock]

/-- An earlier event has found an earlier time. -/
theorem clock_le_of_mem (h : Interleaving (SessionSent farm) s history t) {e : SessionEvent}
    (he : e ∈ history) : e.before.clock ≤ t.clock := by
  obtain ⟨pre, post, hsplit⟩ := List.append_of_mem he
  apply h.kept_from (fun u => e.before.clock ≤ u.clock) hsplit _ le_rfl
  intro later hlater hle
  obtain ⟨past, hsent⟩ :=
    h.good_of_mem (e := later) (by rw [hsplit]; simp [List.mem_cons.mp hlater])
  exact hle.trans hsent.clock_le

/-- What a job has found was found before now. -/
theorem clock_le_of_sentBy (h : Interleaving (SessionSent farm) s history t) {job : ℕ}
    {sent : Sent FarmState} (hsent : sent ∈ sentBy job history) : sent.before.clock ≤ t.clock := by
  obtain ⟨e, he, -, rfl⟩ := mem_sentBy.mp hsent
  exact clock_le_of_mem h he

end Events

/-! ## Runs -/

section Runs

variable {farm : FarmConfig} {s t : FarmState} {history : List SessionEvent} {user jti : String}

/-- Since a revocation: a session of the user has expired by then, or it goes back to a
later login. -/
def LiveSince (farm : FarmConfig) (earlier later : List SessionEvent) (user : String) (now : Int)
    (t : FarmState) : Prop :=
  ∀ row ∈ t.db.farmSessions.rows, row.publicKey = user → row.revokedAt = none →
    row.expiresAt ≤ now ∨ Stems farm earlier later user row.jti

theorem LiveSince.of_sessions {earlier later : List SessionEvent} {now : Int} {t' : FarmState}
    (h : LiveSince farm earlier later user now t)
    (hsame : t'.db.farmSessions = t.db.farmSessions) (more : List SessionEvent) :
    LiveSince farm earlier (later ++ more) user now t' := by
  intro row hrow huser hlive
  rw [hsame] at hrow
  exact (h row hrow huser hlive).imp_right fun hstems => hstems.append more

/-- Revoking leaves no session of the user that expires later. -/
theorem liveSince_revoked (earlier : List SessionEvent) {now : Int} :
    LiveSince farm earlier [] user now (written (revokeSessions user now) t) := by
  intro row hrow huser hlive
  exact .inl ((live_of_revokeSessions hrow hlive).2 huser)

/-- What a revocation does not touch. -/
theorem LiveSince.revoke {earlier later : List SessionEvent} {now now' : Int} {other : String}
    (h : LiveSince farm earlier later user now t) (more : List SessionEvent) :
    LiveSince farm earlier (later ++ more) user now (written (revokeSessions other now') t) := by
  intro row hrow huser hlive
  have hold := (live_of_revokeSessions hrow hlive).1
  exact (h row hold huser hlive).imp_right fun hstems => hstems.append more

/-- A session is stored that goes back to a later login, if it is the user's. -/
theorem LiveSince.insert {earlier later : List SessionEvent} {now : Int} {e : SessionEvent}
    {row : FarmSessionRow} (h : LiveSince farm earlier later user now e.before)
    (hstatement : e.statement = executed (insertSession row))
    (hnew : newSession? e = some row → row.publicKey = user →
      Stems farm earlier (later ++ [e]) user row.jti) :
    LiveSince farm earlier (later ++ [e]) user now e.after := by
  have hafter : e.after = executed (insertSession row) e.before := by rw [Sent.after, hstatement]
  rcases insertSession_cases row e.before with hsame | ⟨hfree, hrows⟩
  · exact h.of_sessions (by rw [hafter, hsame]) [e]
  · rw [← hafter] at hrows
    intro found hfound huser hlive
    rw [hrows, List.mem_append, List.mem_singleton] at hfound
    rcases hfound with hfound | rfl
    · exact (h found hfound huser hlive).imp_right fun hstems => hstems.append [e]
    · exact .inr (hnew (newSession?_of_rows hfree hrows) huser)

theorem RenewsLive.init {last : SessionEvent} (h : RenewsLive farm (history ++ [last])) :
    RenewsLive farm history := by
  rintro before e post rfl
  exact h before e (post ++ [last]) (by simp)

/-- The next statement of a job is a revocation: that is what it sends. -/
theorem SessionSent.of_revokes {request : SessionRequest} {past : List (Sent FarmState)}
    {sent : Sent FarmState} (h : SessionSent farm request past sent)
    (hrevokes : revokes? farm request past = some user) :
    ∃ clock ∈ past, sent.statement = written (revokeSessions user clock.before.clock) := by
  rcases h with ⟨hnone, -, -⟩ | ⟨jtiBytes, req, row, rfl, -⟩ | ⟨old, row, hnone, -, -, -⟩ |
    ⟨user', clock, hsome, hclock, h⟩
  · rw [hrevokes] at hnone
    cases hnone
  · cases hrevokes
  · rw [hrevokes] at hnone
    cases hnone
  · rw [hrevokes] at hsome
    cases hsome
    exact ⟨clock, hclock, h⟩

/-- One event after the revocation. -/
theorem liveSince_step {pre later : List SessionEvent} {revocation e : SessionEvent} {now : Int}
    (h : Interleaving (SessionSent farm) s (pre ++ revocation :: later) e.before)
    (hgood : SessionSent farm e.request (sentBy e.job (pre ++ revocation :: later)) e.toSent)
    (hrevokes : revokes? farm revocation.request (sentBy revocation.job pre) = some user)
    (hlives : RenewsLive farm (pre ++ revocation :: later ++ [e]))
    (hnow : now ≤ revocation.before.clock)
    (hsince : LiveSince farm (pre ++ [revocation]) later user now e.before) :
    LiveSince farm (pre ++ [revocation]) (later ++ [e]) user now e.after := by
  rcases hgood with ⟨-, hsame, -⟩ | ⟨jtiBytes, req, row, hrequest, hinsert⟩ |
    ⟨old, row, -, hold, hsub, hinsert⟩ | ⟨other, clock, -, -, hrevoke⟩
  · exact hsince.of_sessions hsame [e]
  · apply hsince.insert hinsert
    exact fun hrow huser => .login e jtiBytes req row (by simp) hrequest hrow huser
  · apply hsince.insert hinsert
    intro hrow huser
    obtain ⟨session, hfound, hkey, hactive⟩ :=
      hlives _ e [] rfl row hrow old hold pre revocation later rfl (hrevokes.trans (by rw [huser]))
    obtain ⟨hsession, hjti⟩ := Table.find?_eq_some_iff.mp hfound
    simp only [FarmSessionRow.isActive, Bool.and_eq_true, Option.isNone_iff_eq_none,
      decide_eq_true_eq] at hactive
    -- The session of the old token has not expired, so it goes back to a later login itself.
    have hstems : Stems farm (pre ++ [revocation]) later user session.jti := by
      refine (hsince session hsession (hkey.trans huser) hactive.1).resolve_left ?_
      have hclock := clock_le_of_mem h (e := revocation) (by simp)
      omega
    rw [hjti] at hstems
    refine .renewal later e [] old row rfl ?_ hrow huser (hstems.append [e])
    rw [List.append_assoc, List.singleton_append]
    exact hold
  · rw [Sent.after, hrevoke]
    exact hsince.revoke [e]

/-- Everything after the revocation. -/
theorem liveSince_run (h : Interleaving (SessionSent farm) s history t)
    (hlives : RenewsLive farm history) {pre later : List SessionEvent} {revocation : SessionEvent}
    (hsplit : history = pre ++ revocation :: later)
    (hrevokes : revokes? farm revocation.request (sentBy revocation.job pre) = some user) :
    ∃ now ≤ revocation.before.clock, LiveSince farm (pre ++ [revocation]) later user now t := by
  induction h generalizing later with
  | idle => simp at hsplit
  | @exec history t last hrun hbefore hown hgood ih =>
      subst hbefore
      rcases snoc_split hsplit with ⟨rfl, rfl, rfl⟩ | ⟨between, rfl, rfl⟩
      · obtain ⟨clock, hclock, hstatement⟩ := hgood.of_revokes hrevokes
        refine ⟨clock.before.clock, clock_le_of_sentBy hrun hclock, ?_⟩
        rw [Sent.after, hstatement]
        exact liveSince_revoked _
      · obtain ⟨now, hnow, hsince⟩ := ih hlives.init rfl
        exact ⟨now, hnow, liveSince_step hrun hgood hrevokes hlives hnow hsince⟩

/-- What is left of a check after its two queries. -/
theorem rest?_revokeCheck (jti : String) (clock select : Sent FarmState)
    (more : List (Sent FarmState)) :
    (revokeCheck jti).rest? (clock :: select :: more) =
      (Prog.ret ((select.before.db.farmSessions.find? jti).elim true fun row =>
        row.revokedAt.isSome || clock.before.clock ≥ row.expiresAt) :
          Handler Bool).rest? more := by
  have hrow : ∀ found : Option FarmSessionRow, select.before.db.farmSessions.find? jti = found →
      (revokeCheck jti).rest? (clock :: select :: more) =
        (Prog.ret (found.elim true fun row =>
          row.revokedAt.isSome || clock.before.clock ≥ row.expiresAt) :
            Handler Bool).rest? more := by
    intro found hfound
    cases found <;>
      simp [revokeCheck, Prog.rest?, bind, Prog.bind, unixNow, fetch, Prog.query, hfound, pure]
  exact hrow _ rfl

/-- What a check has found that reports a session as live. -/
theorem reportsLive?_eq_some {request : SessionRequest} {past : List (Sent FarmState)}
    (h : reportsLive? request past = some jti) :
    ∃ clock select, past = [clock, select] ∧
      ∃ row ∈ select.before.db.farmSessions.find? jti, row.revokedAt = none ∧
        clock.before.clock < row.expiresAt := by
  cases request with
  | revokeCheck checked =>
      rw [reportsLive?] at h
      split_ifs at h with hreturned
      cases h
      have hrest := Prog.rest?_of_returned? hreturned
      match past, hrest with
      | [], hrest => cases hrest
      | [_], hrest => cases hrest
      | clock :: select :: third :: more, hrest =>
          rw [rest?_revokeCheck] at hrest
          cases hrest
      | [clock, select], hrest =>
          rw [rest?_revokeCheck, Prog.rest?_nil, Option.some.injEq, Prog.ret.injEq] at hrest
          refine ⟨clock, select, rfl, ?_⟩
          cases hfound : select.before.db.farmSessions.find? jti with
          | none =>
              rw [hfound] at hrest
              cases hrest
          | some row =>
              rw [hfound, Option.elim_some, Bool.or_eq_false_iff, decide_eq_false_iff_not] at hrest
              exact ⟨row, rfl, by simpa using hrest.1, not_le.mp hrest.2⟩
  | tick | challenge | verify | renew | revokeUserSessions => cases h

end Runs

/-- A revocation is final as long as nobody renews a token whose session is no longer
live. -/
theorem revocationFinal (farm : FarmConfig) (moves : List (Move SessionRequest)) (s : FarmState)
    (hlives : RenewsLive farm (sessionRun farm moves s).history) :
    RevocationFinal farm (sessionRun farm moves s).history := by
  have hsound := Server.sound_serve (SessionRequest.handler_follows farm) moves s
  intro pre revocation later check post hsplit user hrevokes jti hreports hstarted
    ⟨row, hrow, huser⟩
  have hupTo : (sessionRun farm moves s).history =
      (pre ++ revocation :: later) ++ check :: post := by
    rw [hsplit, List.append_assoc, List.cons_append]
  -- The state that the check has found, with what holds of it since the revocation.
  have hcheck := (hsound.run.split hupTo).1
  have hlivesUpTo : RenewsLive farm (pre ++ revocation :: later) := by
    intro before e post' hsplit'
    refine hlives before e (post' ++ check :: post) ?_
    rw [hupTo, hsplit', List.append_assoc, List.cons_append]
  obtain ⟨now, hnow, hsince⟩ := liveSince_run hcheck hlivesUpTo rfl hrevokes
  obtain ⟨clock, select, hpast, found, hfound, hlive, hexpires⟩ := reportsLive?_eq_some hreports
  have hpast' : sentBy check.job (pre ++ revocation :: later) ++ [check.toSent] =
      [clock] ++ [select] := by
    rw [← sentBy_snoc_self, List.append_assoc]
    exact hpast
  obtain ⟨hclocks, hselects⟩ := List.append_inj' hpast' rfl
  have hselect : check.toSent = select := List.singleton_inj.mp hselects
  subst hselect
  obtain rfl : found = row := Option.some.inj (hfound.symm.trans hrow)
  obtain ⟨hmem, rfl⟩ := Table.find?_eq_some_iff.mp hfound
  -- The check has read the clock after the revocation.
  have hlate : revocation.before.clock ≤ clock.before.clock := by
    rw [← List.singleton_append, ← List.append_assoc, sentBy_append, hstarted, List.nil_append]
      at hclocks
    obtain ⟨e, he, -, rfl⟩ := mem_sentBy.mp (show clock ∈ sentBy check.job later by simp [hclocks])
    obtain ⟨before, after, rfl⟩ := List.append_of_mem he
    have hread : (sessionRun farm moves s).history =
        (pre ++ revocation :: before) ++ e :: (after ++ check :: post) := by
      rw [hsplit]
      simp
    exact clock_le_of_mem (hsound.run.split hread).1 (by simp)
  exact (hsince found hmem huser hlive).resolve_left (by omega)

/-! ## Two runs -/

/-- The keys of a user and of the farm's admin. -/
def userKey : String := "8a88e3dd7409f195fd52db2d3cba5d72ca6709bf1d94121bf3748801b40f6f5c"

def adminKey : String := "8139770ea87d175f56a35466c34c7ecccb8d8a91b4ee37a25df60f5b8fc9b394"

/-- The user's answers to two challenges. -/
def firstAnswer : RecordedSignature :=
  ⟨.replicate 32 1, userKey, .replicate 32 7,
    "0e1bd06c6ab98ef354701a00c55715d1b65a915d898b9f68e8e48b037c345c56" ++
    "75a243feeae3e7c4deca2da6d340854edc5b86655461e74d9d65e02333521f0e"⟩

def secondAnswer : RecordedSignature :=
  ⟨.replicate 32 1, userKey, .replicate 32 8,
    "e737c186f3dc59037df4623118c8c7a6e3504a69f5bd4a4d21d7b8ce5e8750be" ++
    "39064557a67866ae4ef7da2988bae7eb4c7f2a062183af6866fee652239d9902"⟩

def loginWith (answer : RecordedSignature) : VerifyRequest :=
  ⟨userKey, answer.signatureHex, none⟩

def tokenPayload (sub jti : String) (iat exp : Int64) : FarmTokenPayload :=
  ⟨1, "https://farm.test", farmKey, sub, none, jti, iat, exp, "member"⟩

/-- What the farm has signed. -/
def adminTokenText : String :=
  tokenText adminKey "aaaaaaaaaaaaaaaaaaaaaaaaaaaaaaaa" "900" "2592900"

def userTokenText (jti : String) : String :=
  tokenText userKey jti "1000" "2593000"

def adminTokenSignature : RecordedSignature :=
  ⟨farmKeypair, farmKey, asBytes adminTokenText,
    "8666ea22a8f6c8f06cf06f70436c834db8c1d6147c8883a0693a3952fa9a3b6a" ++
    "63fb1c34df2f1591a5a09f5f2c8ac4151718b81d9a01047e9888599e3aeebe0b"⟩

def firstTokenSignature : RecordedSignature :=
  ⟨farmKeypair, farmKey, asBytes (userTokenText "01010101010101010101010101010101"),
    "f5af2640786cf205c4d66cb4c78691f1b48fd42e90a5d9f3cc19f3dbb6cef5be" ++
    "1a8519b91c721b75508bf3b1eefb6225546b28c30bf9012fee648ca639773e03"⟩

def secondTokenSignature : RecordedSignature :=
  ⟨farmKeypair, farmKey, asBytes (userTokenText "02020202020202020202020202020202"),
    "39c62cbbbf01a2f85d3c2377a9765bab60d462ed569a3a2ac283a9e57d066af9" ++
    "4418eb2badea005b6bac4accad85f17cd3aeccccef379bc3d8238abf2a97520a"⟩

def thirdTokenSignature : RecordedSignature :=
  ⟨farmKeypair, farmKey, asBytes (userTokenText "03030303030303030303030303030303"),
    "e278f541777c7896e3e272e47f803a7997ceafa861f5993df5f77be233f8c6fb" ++
    "1663f5603f3ebe14f9ccce7b804bf6f1f74b859e8c23b342df30126c1a173503"⟩

def sampleFarm : FarmConfig where
  ed25519 := .ofRecorded [firstAnswer, secondAnswer, adminTokenSignature, firstTokenSignature,
    secondTokenSignature, thirdTokenSignature]
  json := .ofRecorded [
    (tokenPayload adminKey "aaaaaaaaaaaaaaaaaaaaaaaaaaaaaaaa" 900 2592900, adminTokenText),
    (tokenPayload userKey "01010101010101010101010101010101" 1000 2593000,
      userTokenText "01010101010101010101010101010101"),
    (tokenPayload userKey "02020202020202020202020202020202" 1000 2593000,
      userTokenText "02020202020202020202020202020202"),
    (tokenPayload userKey "03030303030303030303030303030303" 1000 2593000,
      userTokenText "03030303030303030303030303030303")]
  keypair := farmKeypair
  farmUrl := "https://farm.test"

/-- The token of a session of the user. -/
def userBearer (jti : String) : Bearer :=
  some (sampleFarm.token (newSession jti userKey 1000 "member") none)

def adminPayload : FarmTokenPayload :=
  tokenPayload adminKey "aaaaaaaaaaaaaaaaaaaaaaaaaaaaaaaa" 900 2592900

def adminBearer : Bearer :=
  some (signToken sampleFarm.ed25519 sampleFarm.json farmKeypair adminPayload)

theorem verifyToken_adminBearer :
    sampleFarm.verifyToken 1000 (signToken sampleFarm.ed25519 sampleFarm.json farmKeypair
      adminPayload) = .ok adminPayload := by
  rw [signToken, dotted_eq_plainText]
  decide +kernel

/-- A farm with an admin and without users. -/
def adminFarmRow : FarmRow where
  name := "My Farm"
  description := none
  directoryPublic := 0
  creationPolicy := "admin_only"
  maxHubsPerUser := 0
  maxHubsTotal := 0
  allowDiscoveryListing := 0
  languages := "[\"en\"]"
  tags := "[]"
  country := none
  region := none
  adminPubkey := some adminKey

def newFarm : FarmState :=
  { db := { farms := some adminFarmRow }, clock := 1000 }

/-- The user logs in and the admin revokes the session. -/
def loginThenRevoke : List (Move SessionRequest) :=
  [.start (.challenge (.replicate 32 7) userKey), .exec 0, .exec 0,
    .start (.verify (.replicate 16 1) (loginWith firstAnswer)), .exec 1, .exec 1, .exec 1, .exec 1,
    .exec 1,
    .start (.revokeUserSessions adminBearer userKey), .exec 2, .exec 2, .exec 2, .exec 2, .exec 2]

/-- The user logs in again and renews the new token. -/
def loginAgain : List (Move SessionRequest) :=
  loginThenRevoke ++
    [.start (.challenge (.replicate 32 8) userKey), .exec 3, .exec 3,
      .start (.verify (.replicate 16 2) (loginWith secondAnswer)), .exec 4, .exec 4, .exec 4,
      .exec 4, .exec 4,
      .start (.renew (.replicate 16 3) (userBearer "02020202020202020202020202020202")), .exec 5,
      .exec 5, .exec 5,
      .start (.revokeCheck "03030303030303030303030303030303"), .exec 6, .exec 6]

/-- The user's new session is live, and it goes back to the second login. -/
theorem revocationFinal_loginAgain :
    (sessionRun sampleFarm loginAgain newFarm).answer? 6 = some (.ok (.revoked false)) ∧
      RevocationFinal sampleFarm (sessionRun sampleFarm loginAgain newFarm).history := by
  have hrun : (sessionRun sampleFarm loginAgain newFarm).answer? 6 = some (.ok (.revoked false)) ∧
      RenewsLiveAt sampleFarm (sessionRun sampleFarm loginAgain newFarm).history := by
    rw [loginAgain, loginThenRevoke, adminBearer, userBearer, FarmConfig.token,
      signToken, signToken, dotted_eq_plainText, dotted_eq_plainText]
    decide +kernel
  exact ⟨hrun.1, revocationFinal sampleFarm loginAgain newFarm (renewsLive_iff.mpr hrun.2)⟩

/-- The user renews the old token. -/
def renewOld : List (Move SessionRequest) :=
  loginThenRevoke ++
    [.start (.renew (.replicate 16 3) (userBearer "01010101010101010101010101010101")), .exec 3,
      .exec 3, .exec 3,
      .start (.revokeCheck "03030303030303030303030303030303"), .exec 4, .exec 4]

def SessionRequest.isVerify : SessionRequest → Bool
  | .verify _ _ => true
  | _ => false

/-- Without a login there is no chain. -/
theorem not_stems {farm : FarmConfig} {earlier later : List SessionEvent} {user jti : String}
    (h : later.all fun e => !e.request.isVerify) : ¬ Stems farm earlier later user jti := by
  intro hstems
  induction hstems with
  | login e jtiBytes req row he hrequest hrow huser =>
      have hnot := List.all_eq_true.mp h e he
      rw [hrequest] at hnot
      cases hnot
  | renewal pre e post old row hsplit hold hrow huser hstems ih => exact ih

/-- A session of the user is reported as live after the `n`th event has revoked them, and
nobody has logged in since. -/
def ReportedWithoutLogin (farm : FarmConfig) (history : List SessionEvent) (user jti : String)
    (n k : ℕ) : Prop :=
  ∃ revocation ∈ history[n]?, ∃ check ∈ (history.drop (n + 1))[k]?,
    revokes? farm revocation.request (sentBy revocation.job (history.take n)) = some user ∧
      reportsLive? check.request (sentBy check.job
        (history.take n ++ revocation :: ((history.drop (n + 1)).take k ++ [check]))) = some jti ∧
      (sentBy check.job (history.take n ++ [revocation])).length = 0 ∧
      (∃ row ∈ check.before.db.farmSessions.find? jti, row.publicKey = user) ∧
      (((history.drop (n + 1)).take k).all fun e => !e.request.isVerify) = true

instance decidableReportedWithoutLogin (farm : FarmConfig) (history : List SessionEvent)
    (user jti : String) (n k : ℕ) : Decidable (ReportedWithoutLogin farm history user jti n k) := by
  unfold ReportedWithoutLogin
  infer_instance

theorem ReportedWithoutLogin.not_revocationFinal {farm : FarmConfig} {history : List SessionEvent}
    {user jti : String} {n k : ℕ} (h : ReportedWithoutLogin farm history user jti n k) :
    ¬ RevocationFinal farm history := by
  obtain ⟨revocation, hn, check, hk, hrevokes, hreports, hstarted, hrow, hnoLogin⟩ := h
  have hsplit : history = history.take n ++ revocation :: history.drop (n + 1) := by
    obtain ⟨hlt, rfl⟩ := List.getElem?_eq_some_iff.mp hn
    rw [List.getElem_cons_drop, List.take_append_drop]
  have hlater : history.drop (n + 1) = (history.drop (n + 1)).take k ++
      check :: (history.drop (n + 1)).drop (k + 1) := by
    obtain ⟨hlt, rfl⟩ := List.getElem?_eq_some_iff.mp hk
    rw [List.getElem_cons_drop, List.take_append_drop]
  intro hfinal
  rw [hlater] at hsplit
  exact not_stems hnoLogin (hfinal _ revocation _ check _ hsplit user hrevokes jti hreports
    (List.length_eq_zero_iff.mp hstarted) hrow)

/-- The old token has brought in a new session. -/
theorem renewOld_not_revocationFinal :
    ¬ RevocationFinal sampleFarm (sessionRun sampleFarm renewOld newFarm).history := by
  have hreported : ReportedWithoutLogin sampleFarm (sessionRun sampleFarm renewOld newFarm).history
      userKey "03030303030303030303030303030303" 11 4 := by
    rw [renewOld, loginThenRevoke, adminBearer, userBearer, FarmConfig.token,
      signToken, signToken, dotted_eq_plainText, dotted_eq_plainText]
    decide +kernel
  exact hreported.not_revocationFinal

end Voxply.Farm
