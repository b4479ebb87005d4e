/-
# Bans against concurrent logins

A login looks at the ban list long before it inserts its session, and a renewal
does not look at all, while a ban deletes the sessions it finds.  A session that
is inserted after that deletion stays.  In runs in which every session is
inserted while its key is not banned, a completed ban leaves no session behind;
and a login that starts after a completed ban is refused in any run.
-/

import Voxply.Hub.CanonicalIdentity
import Voxply.Hub.Moderation

namespace Voxply.Hub

open Voxply.Math Voxply.Identity

variable {lib : Crates} {s t : AppState}

/-! ## Requests -/

/-- The requests that open sessions, and those that store and lift bans. -/
inductive SessionRequest where
  | verify (env : LoginEnv) (req : VerifyRequest)
  | renew (env : LoginEnv) (user : String) (req : VerifyRequest)
  | ban (now : Int) (user : String) (req : BanRequest)
  | unban (user targetKey : String)
  deriving DecidableEq

inductive SessionAnswer where
  | opened (response : VerifyResponse)
  | banned (status : StatusCode) (response : BanResponse)
  | lifted (status : StatusCode)
  deriving DecidableEq

def SessionRequest.handler (lib : Crates) : SessionRequest → Handler SessionAnswer
  | .verify env req => do
      let response ← Hub.verify lib env req
      pure (.opened response)
  | .renew env user req => do
      let response ← Hub.renew lib env user req
      pure (.opened response)
  | .ban now user req => do
      let (status, response) ← banUser now user req
      pure (.banned status response)
  | .unban user targetKey => do
      let status ← unbanUser user targetKey
      pure (.lifted status)

abbrev SessionEvent := Event SessionRequest AppState

/-- Follow a schedule of logins, renewals and bans. -/
abbrev sessionRun (lib : Crates) (moves : List (Move SessionRequest)) (s : AppState) :
    Server SessionRequest AppState ApiError SessionAnswer :=
  serve (SessionRequest.handler lib) moves s

/-- A statement that inserts a session finds its key not banned. -/
def OpensUnbanned (e : SessionEvent) : Prop :=
  ∀ row ∈ e.after.db.sessions.rows, row ∉ e.before.db.sessions.rows →
    e.before.db.bans.has row.publicKey = false

instance (e : SessionEvent) : Decidable (OpensUnbanned e) :=
  inferInstanceAs (Decidable (∀ row ∈ e.after.db.sessions.rows,
    row ∉ e.before.db.sessions.rows → e.before.db.bans.has row.publicKey = false))

/-- A ban that was completed by `e` and has not been lifted since. -/
structure StandingBan (server : Server SessionRequest AppState ApiError SessionAnswer)
    (publicKey : String) (pre : List SessionEvent) (e : SessionEvent)
    (post : List SessionEvent) : Prop where
  split : server.history = pre ++ e :: post
  request : ∃ now user req, server.request? e.job = some (.ban now user req) ∧
    req.targetPublicKey = publicKey
  answered : ∃ answer, server.answer? e.job = some (.ok answer)
  last : sentBy e.job post = []
  stands : ∀ later ∈ e :: post, later.after.db.bans.has publicKey = true

/-! ## Statements -/

/-- What the four handlers send. -/
def SessionRequest.Sends (lib : Crates) :
    SessionRequest → List (Sent AppState) → Sent AppState → Prop
  | .verify env req => LoginSent lib env req
  | .renew env _ req => LoginSent lib env req
  | .ban _ _ req => fun _ => BanSent req.targetPublicKey
  | .unban _ targetKey => fun _ => BanSent targetKey

/-- What the four handlers have seen or done when they answer. -/
def SessionRequest.Done : SessionRequest → SessionAnswer → List (Sent AppState) → Prop
  | .verify _ req => fun _ past => ∃ canonical, resolvedKey req past = some canonical ∧
      ∃ sent ∈ past, sent.before.db.bans.has canonical = false
  | .ban _ _ req => fun _ past => ∃ earlier s,
      past = earlier ++ [⟨written (deleteSessions req.targetPublicKey), s⟩]
  | .renew .. => fun _ _ => True
  | .unban .. => fun _ _ => True

theorem SessionRequest.handler_follows (lib : Crates) (request : SessionRequest) :
    (request.handler lib).Follows (request.Sends lib) request.Done [] := by
  cases request with
  | verify env req =>
      apply verify_follows.bind
      exact fun _ _ _ hpost => hpost.2
  | renew env user req =>
      apply (renew_follows user).bind
      exact fun _ _ _ _ => trivial
  | ban now user req =>
      apply (banUser_follows now user req).bind
      exact fun _ _ _ hpost => hpost
  | unban user targetKey =>
      apply (unbanUser_follows user targetKey).bind
      exact fun _ _ _ _ => trivial

/-! ## Completed bans -/

/-- While a key is banned, no session of it appears. -/
theorem OpensUnbanned.stays_out {e : SessionEvent} (h : OpensUnbanned e) {publicKey : String}
    (hbanned : e.before.db.bans.has publicKey = true)
    (hout : ∀ row ∈ e.before.db.sessions.rows, row.publicKey ≠ publicKey) :
    ∀ row ∈ e.after.db.sessions.rows, row.publicKey ≠ publicKey := by
  intro row hrow hkey
  by_cases hknown : row ∈ e.before.db.sessions.rows
  · exact hout row hknown hkey
  · have hclear := h row hrow hknown
    rw [hkey, hbanned] at hclear
    cases hclear

section Standing

variable {moves : List (Move SessionRequest)} {publicKey : String} {pre post : List SessionEvent}
  {e : SessionEvent}

/-- The statement that completes a ban deletes the sessions of the key. -/
theorem StandingBan.statement_eq (h : StandingBan (sessionRun lib moves s) publicKey pre e post) :
    e.statement = written (deleteSessions publicKey) := by
  have hsound := Server.sound_serve (SessionRequest.handler_follows lib) moves s
  obtain ⟨now, user, req, hrequest, rfl⟩ := h.request
  obtain ⟨answer, hanswer⟩ := h.answered
  obtain ⟨earlier, s', hpast⟩ := hsound.returned hrequest hanswer
  have hsent : sentBy e.job (sessionRun lib moves s).history =
      sentBy e.job pre ++ [e.toSent] := by
    rw [h.split, List.append_cons, sentBy_append, sentBy_snoc_self, h.last, List.append_nil]
  rw [hsent] at hpast
  have hlast := (List.append_inj' hpast rfl).2
  rw [List.singleton_inj] at hlast
  rw [hlast]

/-- A standing ban leaves no session of its key. -/
theorem StandingBan.no_session (h : StandingBan (sessionRun lib moves s) publicKey pre e post)
    (hopens : ∀ e ∈ (sessionRun lib moves s).history, OpensUnbanned e) :
    ∀ row ∈ (sessionRun lib moves s).state.db.sessions.rows, row.publicKey ≠ publicKey := by
  have hsound := Server.sound_serve (SessionRequest.handler_follows lib) moves s
  have hkept := hsound.run.kept_since (fun s => s.db.bans.has publicKey = true ∧
    ∀ row ∈ s.db.sessions.rows, row.publicKey ≠ publicKey) h.split ?_ ?_
  · exact hkept.2
  · intro later hlater hbefore
    refine ⟨h.stands later (List.mem_cons_of_mem e hlater), ?_⟩
    apply (hopens later ?_).stays_out hbefore.1 hbefore.2
    rw [h.split]
    simp [hlater]
  · refine ⟨h.stands e List.mem_cons_self, fun row hrow => ?_⟩
    rw [Sent.after, h.statement_eq] at hrow
    exact not_mem_deleteSessions hrow

/-- The states that a later job finds are states under the ban. -/
theorem StandingBan.banned_before (h : StandingBan (sessionRun lib moves s) publicKey pre e post)
    {job : ℕ} (hlater : sentBy job (pre ++ [e]) = []) {sent : Sent AppState}
    (hsent : sent ∈ sentBy job (sessionRun lib moves s).history) :
    sent.before.db.bans.has publicKey = true := by
  have hsound := Server.sound_serve (SessionRequest.handler_follows lib) moves s
  rw [h.split, List.append_cons, sentBy_append, hlater, List.nil_append] at hsent
  obtain ⟨later, hmem, -, rfl⟩ := mem_sentBy.mp hsent
  obtain ⟨between, rest, rfl⟩ := List.append_of_mem hmem
  have hsplit : (sessionRun lib moves s).history = (pre ++ e :: between) ++ later :: rest := by
    rw [h.split]
    simp
  apply (hsound.run.split hsplit).1.kept_since (fun s => s.db.bans.has publicKey = true) rfl
  · intro other hother _
    exact h.stands other (by simp [hother])
  · exact h.stands e List.mem_cons_self

end Standing

/-- Over every interleaving in which every session is inserted while its key is
not banned: a completed ban that has not been lifted leaves no session of its
key, and no login that starts later and resolves to the key is let in. -/
theorem ban_final (lib : Crates) (moves : List (Move SessionRequest)) (s : AppState)
    (hopens : ∀ e ∈ (sessionRun lib moves s).history, OpensUnbanned e) (publicKey : String)
    (pre : List SessionEvent) (e : SessionEvent) (post : List SessionEvent)
    (hban : StandingBan (sessionRun lib moves s) publicKey pre e post) :
    (∀ row ∈ (sessionRun lib moves s).state.db.sessions.rows, row.publicKey ≠ publicKey) ∧
    ∀ job env req, (sessionRun lib moves s).request? job = some (.verify env req) →
      sentBy job (pre ++ [e]) = [] →
      resolvedKey req (sentBy job (sessionRun lib moves s).history) = some publicKey →
      ∀ answer, (sessionRun lib moves s).answer? job ≠ some (.ok answer) := by
  refine ⟨hban.no_session hopens, fun job env req hrequest hlater hresolved answer hanswer => ?_⟩
  have hsound := Server.sound_serve (SessionRequest.handler_follows lib) moves s
  obtain ⟨canonical, hcanonical, sent, hsent, hclear⟩ := hsound.returned hrequest hanswer
  rw [hresolved] at hcanonical
  cases hcanonical
  have hbanned := hban.banned_before hlater hsent
  rw [hclear] at hbanned
  cases hbanned

/-- Reading a standing ban off a run: the ban of job `j` was completed by the
event at position `n`. -/
theorem exists_standingBan {server : Server SessionRequest AppState ApiError SessionAnswer}
    {publicKey : String} (n j : ℕ) (now : Int) (user : String) (req : BanRequest)
    (answer : SessionAnswer) (htarget : req.targetPublicKey = publicKey)
    (h : server.request? j = some (.ban now user req) ∧ server.answer? j = some (.ok answer) ∧
      (server.history.drop n).head?.map Event.job = some j ∧
      (server.history.drop (n + 1)).all (fun later => later.job ≠ j) = true ∧
      (server.history.drop n).all (fun later => later.after.db.bans.has publicKey) = true) :
    ∃ pre e post, StandingBan server publicKey pre e post := by
  obtain ⟨hrequest, hanswer, hjob, hlast, hstands⟩ := h
  cases hdrop : server.history.drop n with
  | nil => simp [hdrop] at hjob
  | cons e post =>
      have hpost : server.history.drop (n + 1) = post := by
        rw [← List.drop_drop, hdrop, List.drop_one, List.tail_cons]
      rw [hdrop] at hjob hstands
      rw [hpost] at hlast
      obtain rfl : e.job = j := by simpa using hjob
      refine ⟨server.history.take n, e, post, ?_, ⟨now, user, req, hrequest, htarget⟩,
        ⟨answer, hanswer⟩, ?_, ?_⟩
      · rw [← hdrop, List.take_append_drop]
      · rw [sentBy, List.map_eq_nil_iff, List.filter_eq_nil_iff]
        simpa using hlast
      · simpa using hstands

/-- A hub with a moderator and the owner of the laptop. -/
def moderatedHub : AppState :=
  grantsOwner "moderator" 0 (written (upsertUser laptopKey 1 .approved none)
    (written (upsertUser "moderator" 0 .approved none) newHub))

def laptopVerify : SessionRequest := .verify (.fixed 10 1) (.ofRecorded laptopAnswer)

def laptopBan : SessionRequest := .ban 20 "moderator" ⟨laptopKey, none⟩

/-- The laptop logs in and is banned afterwards. -/
def lateBan : List (Move SessionRequest) :=
  .start laptopVerify :: .replicate 25 (.exec 0) ++ .start laptopBan :: .replicate 6 (.exec 1)

theorem ban_final_lateBan :
    (sessionRun deviceLib lateBan moderatedHub).answer? 0 =
        some (.ok (.opened ⟨hexEncode (.replicate 32 1), "member"⟩)) ∧
      ∀ row ∈ (sessionRun deviceLib lateBan moderatedHub).state.db.sessions.rows,
        row.publicKey ≠ laptopKey := by
  obtain ⟨hstands, hopened, hopens⟩ :
      ((sessionRun deviceLib lateBan moderatedHub).request? 1 =
            some (.ban 20 "moderator" ⟨laptopKey, none⟩) ∧
          (sessionRun deviceLib lateBan moderatedHub).answer? 1 =
            some (.ok (.banned .created ⟨laptopKey, "moderator", none, 20⟩)) ∧
          ((sessionRun deviceLib lateBan moderatedHub).history.drop 22).head?.map Event.job =
            some 1 ∧
          ((sessionRun deviceLib lateBan moderatedHub).history.drop 23).all
            (fun later => later.job ≠ 1) = true ∧
          ((sessionRun deviceLib lateBan moderatedHub).history.drop 22).all
            (fun later => later.after.db.bans.has laptopKey) = true) ∧
        (sessionRun deviceLib lateBan moderatedHub).answer? 0 =
          some (.ok (.opened ⟨hexEncode (.replicate 32 1), "member"⟩)) ∧
        ∀ e ∈ (sessionRun deviceLib lateBan moderatedHub).history, OpensUnbanned e := by
    decide +kernel
  obtain ⟨pre, e, post, hban⟩ := exists_standingBan 22 1 20 "moderator" ⟨laptopKey, none⟩
    (.banned .created ⟨laptopKey, "moderator", none, 20⟩) rfl hstands
  exact ⟨hopened, (ban_final _ _ _ hopens _ _ _ _ hban).1⟩

/-- The laptop has passed the ban check when it is banned. -/
def lateSession : List (Move SessionRequest) :=
  [.start laptopVerify, .exec 0, .exec 0, .start laptopBan] ++ .replicate 6 (.exec 1) ++
    .replicate 25 (.exec 0)

theorem lateSession_survives_ban :
    (∃ pre e post,
      StandingBan (sessionRun deviceLib lateSession moderatedHub) laptopKey pre e post) ∧
    (sessionRun deviceLib lateSession moderatedHub).answer? 0 ≠ none ∧
    (sessionRun deviceLib lateSession moderatedHub).answer? 1 ≠ none ∧
    ∃ row ∈ (sessionRun deviceLib lateSession moderatedHub).state.db.sessions.rows,
      row.publicKey = laptopKey := by
  constructor
  · exact exists_standingBan 6 1 20 "moderator" ⟨laptopKey, none⟩
      (.banned .created ⟨laptopKey, "moderator", none, 20⟩) rfl (by decide +kernel)
  · decide +kernel

end Voxply.Hub
