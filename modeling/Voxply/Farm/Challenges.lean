/-
# Challenges are answered once

A challenge waits in one row for each key; a new challenge for the key takes its place.
`verify` reads the row, checks the answer and deletes the row of the key, whatever is in
it by then.  A challenge opens at most one session as long as it is deleted while it is
still the pending one.  The clock is read before the row is, so a challenge may expire in
between.
-/

import Voxply.Farm.SessionRevocation

namespace Voxply.Farm

open Voxply.Math Voxply.Identity

/-! ## What a request has found -/

/-- The challenge that the next statement issues. -/
def issues? : SessionRequest → List (Sent FarmState) → Option PendingChallengeRow
  | .challenge nonce publicKey, [clock] =>
      some ⟨publicKey, hexEncode nonce, clock.before.clock + 60⟩
  | _, _ => none

/-- The challenge that a login has found waiting and takes to be unexpired. -/
def pendingFound? : SessionRequest → List (Sent FarmState) → Option PendingChallengeRow
  | .verify _ req, clock :: select :: _ =>
      (select.before.db.pendingChallenges.find? req.publicKey).filter
        (clock.before.clock < ·.expiresAt)
  | _, _ => none

/-- The challenge for which an event opens a session. -/
def usedChallenge? (e : SessionEvent) (past : List (Sent FarmState)) : Option PendingChallengeRow :=
  if (newSession? e).isSome then pendingFound? e.request past else none

/-- What has been issued, given the events with the latest first. -/
def issuedSince : List SessionEvent → List PendingChallengeRow
  | [] => []
  | e :: earlier =>
      (issues? e.request (sentBy e.job earlier.reverse)).toList ++ issuedSince earlier

/-- The issued challenges, with the latest first. -/
def issued (history : List SessionEvent) : List PendingChallengeRow :=
  issuedSince history.reverse

/-- The latest challenge for a key. -/
def latestChallenge (s : FarmState) (history : List SessionEvent) (publicKey : String) :
    Option PendingChallengeRow :=
  ((issued history).find? (·.publicKey = publicKey)).or (s.db.pendingChallenges.find? publicKey)

/-! ## What is to hold -/

/-- All challenges have different values: those that are issued, and those that are
waiting at first. -/
def FreshChallenges (s : FarmState) (history : List SessionEvent) : Prop :=
  ((issued history ++ s.db.pendingChallenges.rows).map (·.challengeHex)).Nodup

/-- The `select` that a login has read its challenge with. -/
structure ReadFrom (pre : List SessionEvent) (job : ℕ) (row : PendingChallengeRow)
    (before : List SessionEvent) (select : SessionEvent) (after : List SessionEvent) : Prop where
  split : pre = before ++ select :: after
  job_eq : select.job = job
  second : (sentBy job before).length = 1
  found : select.before.db.pendingChallenges.find? row.publicKey = some row

/-- A challenge opens one session at most, and only one that was the latest of its key
and had not expired when it was read. -/
structure ChallengesSingleUse (s : FarmState) (history : List SessionEvent) : Prop where
  once : ∀ pre e post pre' e' post', history = pre ++ e :: post → history = pre' ++ e' :: post' →
    ∀ row ∈ usedChallenge? e (sentBy e.job pre), ∀ row' ∈ usedChallenge? e' (sentBy e'.job pre'),
      row.challengeHex = row'.challengeHex → pre = pre' ∧ e = e'
  latest : ∀ pre e post, history = pre ++ e :: post →
    ∀ row ∈ usedChallenge? e (sentBy e.job pre), ∃ before select after,
      ReadFrom pre e.job row before select after ∧
        latestChallenge s before row.publicKey = some row ∧
        select.before.clock < row.expiresAt

/-- A login whose answer has been accepted deletes the challenge while it is still the
pending one, and it had not expired when it was read. -/
def DeletesRight (past : List (Sent FarmState)) (e : SessionEvent) : Prop :=
  past.length = 2 → ∀ row ∈ pendingFound? e.request past, ∀ select ∈ past[1]?,
    select.before.clock < row.expiresAt ∧
      e.before.db.pendingChallenges.find? row.publicKey = some row

instance decidableDeletesRight (past : List (Sent FarmState)) (e : SessionEvent) :
    Decidable (DeletesRight past e) := by
  unfold DeletesRight
  infer_instance

/-- All deletions are so. -/
def AnswersRight (history : List SessionEvent) : Prop :=
  ∀ pre e post, history = pre ++ e :: post → DeletesRight (sentBy e.job pre) e

/-- The same by position. -/
def AnswersRightAt (history : List SessionEvent) : Prop :=
  ∀ (n : ℕ) (hn : n < history.length),
    DeletesRight (sentBy (history.get ⟨n, hn⟩).job (history.take n)) (history.get ⟨n, hn⟩)

instance decidableAnswersRightAt (history : List SessionEvent) :
    Decidable (AnswersRightAt history) := by
  unfold AnswersRightAt
  infer_instance

theorem answersRight_iff {history : List SessionEvent} :
    AnswersRight history ↔ AnswersRightAt history :=
  forall_split_iff (p := fun pre e => DeletesRight (sentBy e.job pre) e)

instance decidableFreshChallenges (s : FarmState) (history : List SessionEvent) :
    Decidable (FreshChallenges s history) := by
  unfold FreshChallenges
  infer_instance

/-! ## Statements -/

/-- What the requests send. -/
inductive ChallengeSent (request : SessionRequest) (past : List (Sent FarmState))
    (sent : Sent FarmState) : Prop
  | aside (hissues : issues? request past = none)
      (hsessions : ∀ row ∈ sent.after.db.farmSessions.rows,
        sent.before.db.farmSessions.has row.jti = true)
      (h : sent.after.db.pendingChallenges = sent.before.db.pendingChallenges)
  | issue (row : PendingChallengeRow) (hissues : issues? request past = some row)
      (h : sent.statement = written (upsertChallenge row))
  | delete (publicKey : String) (hissues : issues? request past = none)
      (h : sent.statement = written (deleteChallenge publicKey))
  | store (session : FarmSessionRow) (hissues : issues? request past = none)
      (hpast : ∀ row ∈ pendingFound? request past, ∃ clock select delete user,
        past = [clock, select, delete, user] ∧
          delete.statement = written (deleteChallenge row.publicKey))
      (h : sent.statement = executed (insertSession session))

section Statements

variable {farm : FarmConfig} {past : List (Sent FarmState)} {request : SessionRequest}

/-- What leaves the sessions and the challenges alone. -/
theorem ChallengeSent.elsewhere {sent : Sent FarmState} (hissues : issues? request past = none)
    (hsessions : sent.after.db.farmSessions = sent.before.db.farmSessions)
    (h : sent.after.db.pendingChallenges = sent.before.db.pendingChallenges) :
    ChallengeSent request past sent := by
  apply ChallengeSent.aside hissues _ h
  intro row hrow
  rw [hsessions] at hrow
  exact Table.has_iff.mpr ⟨row, hrow, rfl⟩

theorem ChallengeSent.read {sent : Sent FarmState} (hissues : issues? request past = none)
    (h : sent.statement = id) : ChallengeSent request past sent := by
  have hafter : sent.after = sent.before := by
    rw [Sent.after, h]
    rfl
  exact .elsewhere hissues (by rw [hafter]) (by rw [hafter])

/-- A query changes nothing. -/
theorem ChallengeSent.query (hissues : issues? request past = none) (s : FarmState) :
    ChallengeSent request past ⟨id, s⟩ :=
  .read hissues rfl

/-- A revocation stores no session. -/
theorem ChallengeSent.revoke {publicKey : String} {now : Int}
    (hissues : issues? request past = none) (s : FarmState) :
    ChallengeSent request past ⟨written (revokeSessions publicKey now), s⟩ := by
  apply ChallengeSent.aside hissues _ rfl
  intro row hrow
  obtain ⟨old, hold, rfl⟩ := List.mem_map.mp hrow
  refine Table.has_iff.mpr ⟨old, hold, ?_⟩
  split_ifs <;> rfl

theorem challenge_challenges {nonce : List UInt8} {publicKey : String} :
    (challenge nonce publicKey).Follows (ChallengeSent (.challenge nonce publicKey))
      (fun _ _ => True) [] := by
  apply follows_unixNow_bind (ChallengeSent.query rfl)
  intro s
  apply follows_write_bind
  · exact fun s => .issue _ rfl rfl
  · exact fun s => trivial

theorem openSession_challenges {jtiBytes : List UInt8} {req : VerifyRequest} {now : Int}
    {clock select : Sent FarmState} :
    (openSession farm jtiBytes req now).Follows (ChallengeSent (.verify jtiBytes req))
      (fun _ _ => True) [clock, select] := by
  apply follows_write_bind (fun s => .delete req.publicKey rfl rfl)
  intro s
  apply follows_write_bind (fun s => .elsewhere rfl rfl rfl)
  intro s'
  apply follows_execute_bind
  · intro s''
    refine .store _ rfl ?_ rfl
    intro row hrow
    refine ⟨clock, select, _, _, rfl, ?_⟩
    have hkey : row.publicKey = req.publicKey := by
      have hfound : select.before.db.pendingChallenges.find? req.publicKey = some row :=
        (Option.filter_eq_some_iff.mp hrow).1
      exact (Table.find?_eq_some_iff.mp hfound).2
    rw [hkey]
  · exact fun _ _ _ => trivial

theorem verify_challenges {jtiBytes : List UInt8} {req : VerifyRequest} :
    (verify farm jtiBytes req).Follows (ChallengeSent (.verify jtiBytes req))
      (fun _ _ => True) [] := by
  apply follows_unixNow_bind (ChallengeSent.query rfl)
  intro s
  apply follows_fetch_bind (ChallengeSent.query rfl)
  intro s'
  cases s'.db.pendingChallenges.find? req.publicKey with
  | none => trivial
  | some pending =>
      dsimp only
      split_ifs with hexpired
      · apply follows_write_bind (fun s => .delete req.publicKey rfl rfl)
        exact fun _ => trivial
      · apply Prog.follows_ofExcept_bind
        exact fun _ _ => openSession_challenges

theorem renew_challenges {jtiBytes : List UInt8} {bearer : Bearer} :
    (renew farm jtiBytes bearer).Follows (ChallengeSent (.renew jtiBytes bearer))
      (fun _ _ => True) [] := by
  apply Prog.follows_ofExcept_bind
  intro token _
  apply follows_unixNow_bind (ChallengeSent.query rfl)
  intro s
  apply Prog.follows_ofExcept_bind
  intro old _
  apply follows_unixNow_bind (ChallengeSent.query rfl)
  intro s'
  apply follows_execute_bind
  · exact fun s'' => .store _ rfl (fun _ hrow => nomatch hrow) rfl
  · exact fun _ _ _ => trivial

theorem revokeUserSessions_challenges {bearer : Bearer} {pubkey : String} :
    (revokeUserSessions farm bearer pubkey).Follows
      (ChallengeSent (.revokeUserSessions bearer pubkey)) (fun _ _ => True) [] := by
  apply (requireAdmin_queries.mono (fun past sent _ => .read rfl) fun _ _ _ h => h).bind_any
  intro _ past _
  apply follows_fetch_bind (ChallengeSent.query rfl)
  intro s
  apply Prog.follows_ensure_bind
  intro _
  apply follows_unixNow_bind (ChallengeSent.query rfl)
  intro s'
  exact fun s'' => ⟨ChallengeSent.revoke rfl s'', trivial⟩

theorem revokeCheck_challenges {jti : String} :
    (revokeCheck jti).Follows (ChallengeSent (.revokeCheck jti)) (fun _ _ => True) [] := by
  apply follows_unixNow_bind (ChallengeSent.query rfl)
  intro s
  apply follows_fetch_bind (ChallengeSent.query rfl)
  intro s'
  cases s'.db.farmSessions.find? jti <;> trivial

theorem SessionRequest.handler_challenges (farm : FarmConfig) (request : SessionRequest) :
    (request.handler farm).Follows (ChallengeSent request) (fun _ _ => True) [] := by
  cases request with
  | tick seconds =>
      apply Prog.follows_exec_bind
      · exact fun s => .elsewhere rfl rfl rfl
      · exact fun _ => trivial
  | challenge nonce publicKey => exact challenge_challenges.bind_any fun _ _ _ => trivial
  | verify jtiBytes req => exact verify_challenges.bind_any fun _ _ _ => trivial
  | renew jtiBytes bearer => exact renew_challenges.bind_any fun _ _ _ => trivial
  | revokeUserSessions bearer pubkey =>
      exact revokeUserSessions_challenges.bind_any fun _ _ _ => trivial
  | revokeCheck jti => exact revokeCheck_challenges.bind_any fun _ _ _ => trivial

end Statements

/-! ## Pending challenges -/

section Pending

variable {request : SessionRequest} {past : List (Sent FarmState)} {sent : Sent FarmState}
  {s t : FarmState} {history : List SessionEvent} {publicKey : String}

theorem find?_upsertChallenge (row : PendingChallengeRow) (db : Db) (publicKey : String) :
    (upsertChallenge row db).pendingChallenges.find? publicKey =
      if publicKey = row.publicKey then some row else db.pendingChallenges.find? publicKey := by
  rw [upsertChallenge, Table.find?_upsert]
  split_ifs with hkey
  · cases hfound : db.pendingChallenges.find? publicKey with
    | none => rfl
    | some old =>
        have hold : old.publicKey = row.publicKey :=
          (Table.find?_eq_some_iff.mp hfound).2.trans hkey
        rw [Option.map_some, Option.getD_some, hold]
  · rfl

theorem find?_deleteChallenge (deleted : String) (db : Db) (publicKey : String) :
    (deleteChallenge deleted db).pendingChallenges.find? publicKey =
      if publicKey = deleted then none else db.pendingChallenges.find? publicKey := by
  rw [deleteChallenge, Table.find?_keep]
  split_ifs with hkey
  · rw [Option.filter_eq_none_iff]
    intro row hrow
    simp [(Table.find?_eq_some_iff.mp hrow).2, hkey]
  · cases hfound : db.pendingChallenges.find? publicKey with
    | none => rfl
    | some row =>
        rw [Option.filter_some, if_pos]
        simpa [(Table.find?_eq_some_iff.mp hfound).2] using hkey

theorem pendingChallenges_insertSession (session : FarmSessionRow) (s : FarmState) :
    (executed (insertSession session) s).db.pendingChallenges = s.db.pendingChallenges := by
  cases hinsert : insertSession session s.db with
  | error e => rw [executed_of_error hinsert]
  | ok db =>
      rw [executed_of_ok hinsert]
      exact (rows_insertSession hinsert).2.2

/-- A challenge that waits after a statement was issued by it, or it has been waiting
before. -/
theorem ChallengeSent.pending (h : ChallengeSent request past sent) {row : PendingChallengeRow}
    (hrow : sent.after.db.pendingChallenges.find? publicKey = some row) :
    (issues? request past = some row ∧ row.publicKey = publicKey) ∨
      sent.before.db.pendingChallenges.find? publicKey = some row ∧
        ∀ issued ∈ issues? request past, issued.publicKey ≠ publicKey := by
  cases h with
  | aside hissues hsessions hsame =>
      rw [hsame] at hrow
      exact .inr ⟨hrow, by simp [hissues]⟩
  | issue new hissues hstatement =>
      rw [Sent.after, hstatement, written_db, find?_upsertChallenge] at hrow
      split_ifs at hrow with hkey
      · cases hrow
        exact .inl ⟨hissues, hkey.symm⟩
      · refine .inr ⟨hrow, ?_⟩
        intro issued hissued
        rw [hissues] at hissued
        cases hissued
        exact fun hsame => hkey hsame.symm
  | delete deleted hissues hstatement =>
      rw [Sent.after, hstatement, written_db, find?_deleteChallenge] at hrow
      split_ifs at hrow
      exact .inr ⟨hrow, by simp [hissues]⟩
  | store session hissues hpast hstatement =>
      rw [Sent.after, hstatement, pendingChallenges_insertSession] at hrow
      exact .inr ⟨hrow, by simp [hissues]⟩

theorem issued_snoc (history : List SessionEvent) (e : SessionEvent) :
    issued (history ++ [e]) = (issues? e.request (sentBy e.job history)).toList ++ issued
    history := by
  rw [issued, List.reverse_append, List.reverse_singleton, List.singleton_append, issuedSince,
    List.reverse_reverse, issued]

/-- What has been issued stays issued. -/
theorem issued_append (history later : List SessionEvent) :
    ∃ new, issued (history ++ later) = new ++ issued history := by
  induction later using List.reverseRecOn with
  | nil => exact ⟨[], by rw [List.append_nil, List.nil_append]⟩
  | append_singleton later e ih =>
      obtain ⟨new, hnew⟩ := ih
      refine ⟨(issues? e.request (sentBy e.job (history ++ later))).toList ++ new, ?_⟩
      rw [← List.append_assoc, issued_snoc, hnew, ← List.append_assoc]

/-- The challenge that waits for a key is the latest one. -/
theorem latestChallenge_of_pending (h : Interleaving ChallengeSent s history t)
    {row : PendingChallengeRow} (hrow : t.db.pendingChallenges.find? publicKey = some row) :
    latestChallenge s history publicKey = some row := by
  induction h with
  | idle =>
      rw [latestChallenge, hrow]
      rfl
  | @exec history t last hrun hbefore hown hgood ih =>
      subst hbefore
      rw [latestChallenge, issued_snoc]
      rcases hgood.pending hrow with ⟨hissues, hkey⟩ | ⟨hfound, hothers⟩
      · rw [hissues, Option.toList_some, List.singleton_append,
          List.find?_cons_of_pos (by simpa using hkey), Option.some_or]
      · rw [List.find?_append, List.find?_eq_none.mpr, Option.none_or]
        · exact ih hfound
        · intro issued hissued
          simpa using hothers issued (Option.mem_toList.mp hissued)

/-- A challenge that waits for a key after one has been deleted was issued in the
meantime. -/
theorem issued_since_deletion (h : Interleaving ChallengeSent s history t)
    {pre later : List SessionEvent} {deletion : SessionEvent}
    (hsplit : history = pre ++ deletion :: later)
    (hdeletion : deletion.statement = written (deleteChallenge publicKey)) :
    ∃ new, issued history = new ++ issued (pre ++ [deletion]) ∧
      ∀ row, t.db.pendingChallenges.find? publicKey = some row → row ∈ new := by
  induction h generalizing later with
  | idle => simp at hsplit
  | @exec history t last hrun hbefore hown hgood ih =>
      subst hbefore
      rcases snoc_split hsplit with ⟨rfl, rfl, rfl⟩ | ⟨between, rfl, rfl⟩
      · refine ⟨[], rfl, ?_⟩
        intro row hrow
        rw [Sent.after, hdeletion, written_db, find?_deleteChallenge, if_pos rfl] at hrow
        cases hrow
      · obtain ⟨new, hnew, hwaiting⟩ := ih rfl
        refine ⟨_, by rw [issued_snoc, hnew, ← List.append_assoc], ?_⟩
        intro row hrow
        rw [List.mem_append]
        rcases hgood.pending hrow with ⟨hissues, -⟩ | ⟨hfound, -⟩
        · exact .inl (by rw [hissues]; simp)
        · exact .inr (hwaiting row hfound)

end Pending

/-! ## Runs -/

section Runs

variable {s t : FarmState} {history : List SessionEvent}

/-- What has to happen before a challenge is used: it is found, and it is deleted. -/
structure DeletedFor (e : SessionEvent) (row : PendingChallengeRow) (before : List SessionEvent)
    (deletion : SessionEvent) : Prop where
  job_eq : deletion.job = e.job
  request_eq : deletion.request = e.request
  length_eq : (sentBy e.job before).length = 2
  found : pendingFound? e.request (sentBy e.job before) = some row
  statement_eq : deletion.statement = written (deleteChallenge row.publicKey)

/-- A login has found its challenge once it has sent two statements. -/
theorem pendingFound?_cons (request : SessionRequest) (clock select : Sent FarmState)
    (more : List (Sent FarmState)) :
    pendingFound? request (clock :: select :: more) = pendingFound? request [clock, select] := by
  cases request <;> rfl

/-- The challenge that a login has found. -/
theorem find?_of_pendingFound? {request : SessionRequest} {past : List (Sent FarmState)}
    {row : PendingChallengeRow} (hlength : past.length = 2)
    (h : pendingFound? request past = some row) :
    ∃ clock select, past = [clock, select] ∧
      select.before.db.pendingChallenges.find? row.publicKey = some row := by
  obtain ⟨clock, select, rfl⟩ := List.length_eq_two.mp hlength
  refine ⟨clock, select, rfl, ?_⟩
  cases request with
  | verify jtiBytes req =>
      have hfound : select.before.db.pendingChallenges.find? req.publicKey = some row :=
        (Option.filter_eq_some_iff.mp h).1
      rw [(Table.find?_eq_some_iff.mp hfound).2]
      exact hfound
  | tick | challenge | renew | revokeUserSessions | revokeCheck => cases h

/-- An event that stores a session is the insertion. -/
theorem ChallengeSent.store_of_newSession {e : SessionEvent} {past : List (Sent FarmState)}
    (h : ChallengeSent e.request past e.toSent) (hnew : (newSession? e).isSome) :
    ∀ row ∈ pendingFound? e.request past, ∃ clock select delete user,
      past = [clock, select, delete, user] ∧
        delete.statement = written (deleteChallenge row.publicKey) := by
  obtain ⟨session, hsession⟩ := Option.isSome_iff_exists.mp hnew
  have hmem : session ∈ e.after.db.farmSessions.rows := List.mem_of_find?_eq_some hsession
  have hfree : e.before.db.farmSessions.has session.jti = false := by
    simpa using List.find?_some hsession
  have hsame : e.after.db.farmSessions ≠ e.before.db.farmSessions := by
    intro hsame
    rw [hsame] at hmem
    rw [Table.has_iff.mpr ⟨session, hmem, rfl⟩] at hfree
    cases hfree
  cases h with
  | aside hissues hknown hpending =>
      rw [hknown session hmem] at hfree
      cases hfree
  | issue row hissues hstatement => exact absurd (by rw [Sent.after, hstatement]; rfl) hsame
  | delete publicKey hissues hstatement =>
      exact absurd (by rw [Sent.after, hstatement]; rfl) hsame
  | store stored hissues hpast hstatement => exact hpast

/-- A challenge that is used has been deleted by the same login. -/
theorem exists_deletion (h : Interleaving ChallengeSent s history t) {pre post : List SessionEvent}
    {e : SessionEvent} (hsplit : history = pre ++ e :: post) {row : PendingChallengeRow}
    (hused : usedChallenge? e (sentBy e.job pre) = some row) :
    (sentBy e.job pre).length = 4 ∧ ∃ before deletion between,
      pre = before ++ deletion :: between ∧ DeletedFor e row before deletion := by
  rw [usedChallenge?] at hused
  split_ifs at hused with hnew
  obtain ⟨-, hgood, hown⟩ := h.split hsplit
  obtain ⟨clock, select, delete, user, hpast, hstatement⟩ :=
    hgood.store_of_newSession hnew row hused
  refine ⟨by rw [hpast]; rfl, ?_⟩
  have hprefix : [clock, select] ++ [delete] <+: sentBy e.job pre := ⟨[user], hpast.symm⟩
  obtain ⟨before, deletion, between, hpre, hjob, hsent, hbefore⟩ := exists_event hprefix
  refine ⟨before, deletion, between, hpre, hjob, hown deletion (by simp [hpre]) hjob, ?_, ?_, ?_⟩
  · rw [hbefore]
    rfl
  · rw [hbefore]
    rw [hpast, pendingFound?_cons] at hused
    exact hused
  · rw [← hsent] at hstatement
    exact hstatement

/-- A login has found its challenge while it was the latest of its key. -/
theorem DeletedFor.readFrom (h : Interleaving ChallengeSent s history t)
    {pre between post : List SessionEvent} {e deletion : SessionEvent} {row : PendingChallengeRow}
    (hsplit : history = pre ++ deletion :: between ++ e :: post)
    (hdeleted : DeletedFor e row pre deletion) :
    ∃ before select after, ReadFrom (pre ++ deletion :: between) e.job row before select after ∧
      before <+: pre ∧ latestChallenge s before row.publicKey = some row ∧
        (sentBy e.job pre)[1]? = some select.toSent := by
  obtain ⟨clock, read, hpast, hfound⟩ := find?_of_pendingFound? hdeleted.length_eq hdeleted.found
  have hprefix : [clock] ++ [read] <+: sentBy e.job pre := ⟨[], by rw [hpast]; rfl⟩
  obtain ⟨before, select, after, hpre, hjob, hsent, hbefore⟩ := exists_event hprefix
  rw [← hsent] at hfound
  have hupTo : history = before ++ select :: (after ++ deletion :: between ++ e :: post) := by
    rw [hsplit, hpre]
    simp
  have hrun : Interleaving ChallengeSent s before select.before := (h.split hupTo).1
  refine ⟨before, select, after ++ deletion :: between, ⟨?_, hjob, ?_, hfound⟩, ?_, ?_, ?_⟩
  · rw [hpre, List.append_assoc, List.cons_append]
  · rw [hbefore]
    rfl
  · rw [hpre]
    exact List.prefix_append _ _
  · exact latestChallenge_of_pending hrun hfound
  · rw [hpast, hsent]
    rfl

theorem mem_of_latestChallenge {publicKey : String} {row : PendingChallengeRow}
    (h : latestChallenge s history publicKey = some row) :
    row ∈ issued history ++ s.db.pendingChallenges.rows := by
  rw [latestChallenge, Option.or_eq_some_iff] at h
  rw [List.mem_append]
  rcases h with h | ⟨-, h⟩
  · exact .inl (List.mem_of_find?_eq_some h)
  · exact .inr (Table.find?_eq_some_iff.mp h).1

/-- A challenge that a login has found had been issued before. -/
theorem DeletedFor.mem_issued (h : Interleaving ChallengeSent s history t)
    {pre between post : List SessionEvent} {e deletion : SessionEvent} {row : PendingChallengeRow}
    (hsplit : history = pre ++ deletion :: between ++ e :: post)
    (hdeleted : DeletedFor e row pre deletion) :
    row ∈ issued pre ++ s.db.pendingChallenges.rows := by
  obtain ⟨before, select, after, -, ⟨later, rfl⟩, hlatest, -⟩ := hdeleted.readFrom h hsplit
  obtain ⟨new, hnew⟩ := issued_append before later
  have hmem := mem_of_latestChallenge hlatest
  rw [List.mem_append] at hmem ⊢
  rw [hnew, List.mem_append]
  exact hmem.imp_left .inr

theorem DeletedFor.mem_issued_history (h : Interleaving ChallengeSent s history t)
    {pre between post : List SessionEvent} {e deletion : SessionEvent} {row : PendingChallengeRow}
    (hsplit : history = pre ++ deletion :: between ++ e :: post)
    (hdeleted : DeletedFor e row pre deletion) :
    row ∈ issued history ++ s.db.pendingChallenges.rows := by
  obtain ⟨new, hnew⟩ := issued_append pre (deletion :: between ++ e :: post)
  rw [hsplit, List.append_assoc, hnew, List.append_assoc]
  exact List.mem_append_right _ (hdeleted.mem_issued h hsplit)

/-- A challenge is known by its value. -/
theorem FreshChallenges.eq_of_challengeHex_eq (hfresh : FreshChallenges s history)
    {row row' : PendingChallengeRow} (hrow : row ∈ issued history ++ s.db.pendingChallenges.rows)
    (hrow' : row' ∈ issued history ++ s.db.pendingChallenges.rows)
    (h : row.challengeHex = row'.challengeHex) : row = row' :=
  List.inj_on_of_nodup_map hfresh hrow hrow' h

/-- A challenge that a login deletes at its time is not deleted at its time by a second
one. -/
theorem not_deleted_twice (h : Interleaving ChallengeSent s history t)
    (hfresh : FreshChallenges s history) (hright : AnswersRight history)
    {pre mid between post later : List SessionEvent} {e e' deletion deletion' : SessionEvent}
    {row : PendingChallengeRow} (hsplit : history = pre ++ deletion :: between ++ e :: post)
    (hsplit' : history = pre ++ deletion :: mid ++ deletion' :: later)
    (hdeleted : DeletedFor e row pre deletion)
    (hdeleted' : DeletedFor e' row (pre ++ deletion :: mid) deletion') : False := by
  obtain ⟨new, hnew, hwaiting⟩ :=
    issued_since_deletion (h.split hsplit').1 rfl hdeleted.statement_eq
  have hlength := hdeleted'.length_eq
  have hfound := hdeleted'.found
  rw [← hdeleted'.job_eq] at hlength hfound
  rw [← hdeleted'.request_eq] at hfound
  obtain ⟨clock, select, hpast, -⟩ := find?_of_pendingFound? hlength hfound
  have hwaits := (hright _ deletion' later hsplit' hlength row hfound select (by rw [hpast]; rfl)).2
  -- The row was issued before the first deletion, and it was issued after it.
  obtain ⟨last, hlast⟩ := issued_append (pre ++ deletion :: mid) (deletion' :: later)
  obtain ⟨first, hfirst⟩ := issued_append pre [deletion]
  have hnodup := hfresh
  rw [FreshChallenges, hsplit', hlast, hnew, hfirst, List.append_assoc, List.append_assoc,
    List.append_assoc, List.map_append] at hnodup
  have htwice := (List.nodup_append.mp hnodup).2.1
  rw [List.map_append, List.nodup_append] at htwice
  refine htwice.2.2 _ (List.mem_map_of_mem (hwaiting row hwaits)) _ ?_ rfl
  exact List.mem_map_of_mem (List.mem_append_right _ (hdeleted.mem_issued h hsplit))

end Runs

/-- Challenges are used once as long as each is deleted while it is pending and is read
before it expires, provided that no value is issued twice. -/
theorem challengesSingleUse (farm : FarmConfig) (moves : List (Move SessionRequest)) (s : FarmState)
    (hfresh : FreshChallenges s (sessionRun farm moves s).history)
    (hright : AnswersRight (sessionRun farm moves s).history) :
    ChallengesSingleUse s (sessionRun farm moves s).history := by
  have hrun := (Server.sound_serve (SessionRequest.handler_challenges farm) moves s).run
  constructor
  · intro pre e post pre' e' post' hsplit hsplit' row hrow row' hrow' hvalue
    obtain ⟨hlength, before, deletion, between, rfl, hdeleted⟩ := exists_deletion hrun hsplit hrow
    obtain ⟨hlength', before', deletion', between', rfl, hdeleted'⟩ :=
      exists_deletion hrun hsplit' hrow'
    obtain rfl : row = row' := hfresh.eq_of_challengeHex_eq
      (hdeleted.mem_issued_history hrun hsplit) (hdeleted'.mem_issued_history hrun hsplit') hvalue
    by_cases hjob : e.job = e'.job
    · exact split_eq_of_length hsplit hsplit' hjob (hlength.trans hlength'.symm)
    · exfalso
      have hdeletion : (sessionRun farm moves s).history =
          before ++ deletion :: (between ++ e :: post) := by
        rw [hsplit, List.append_assoc, List.cons_append]
      have hdeletion' : (sessionRun farm moves s).history =
          before' ++ deletion' :: (between' ++ e' :: post') := by
        rw [hsplit', List.append_assoc, List.cons_append]
      rcases split_order hdeletion hdeletion' with ⟨-, rfl⟩ | ⟨mid, rfl⟩ | ⟨mid, rfl⟩
      · exact hjob (hdeleted.job_eq.symm.trans hdeleted'.job_eq)
      · exact not_deleted_twice hrun hfresh hright hsplit hdeletion' hdeleted hdeleted'
      · exact not_deleted_twice hrun hfresh hright hsplit' hdeletion hdeleted' hdeleted
  · intro pre e post hsplit row hrow
    obtain ⟨-, before, deletion, between, rfl, hdeleted⟩ := exists_deletion hrun hsplit hrow
    obtain ⟨earlier, select, after, hread, -, hlatest, hselect⟩ := hdeleted.readFrom hrun hsplit
    refine ⟨earlier, select, after, hread, hlatest, ?_⟩
    have hlength := hdeleted.length_eq
    have hfound := hdeleted.found
    rw [← hdeleted.job_eq] at hlength hfound hselect
    rw [← hdeleted.request_eq] at hfound
    exact (hright before deletion (between ++ e :: post) (by rw [hsplit]; simp) hlength row hfound
      select.toSent hselect).1

/-! ## Two runs -/

/-- The user answers a challenge, and the same answer comes in once more. -/
def answerAgain : List (Move SessionRequest) :=
  [.start (.challenge (.replicate 32 7) userKey), .exec 0, .exec 0,
    .start (.verify (.replicate 16 1) (loginWith firstAnswer)), .exec 1, .exec 1, .exec 1, .exec 1,
    .exec 1,
    .start (.verify (.replicate 16 2) (loginWith firstAnswer)), .exec 2, .exec 2]

/-- The second login does not find the challenge any more. -/
theorem challengesSingleUse_answerAgain :
    (sessionRun sampleFarm answerAgain newFarm).answer? 2 =
        some (.error (textError .unauthorized "No pending challenge for this key")) ∧
      ChallengesSingleUse newFarm (sessionRun sampleFarm answerAgain newFarm).history := by
  have hrun : (sessionRun sampleFarm answerAgain newFarm).answer? 2 =
        some (.error (textError .unauthorized "No pending challenge for this key")) ∧
      FreshChallenges newFarm (sessionRun sampleFarm answerAgain newFarm).history ∧
      AnswersRightAt (sessionRun sampleFarm answerAgain newFarm).history := by
    decide +kernel
  exact ⟨hrun.1, challengesSingleUse sampleFarm answerAgain newFarm hrun.2.1
    (answersRight_iff.mpr hrun.2.2)⟩

/-- Both logins read the challenge before one of them deletes it. -/
def answerAtOnce : List (Move SessionRequest) :=
  [.start (.challenge (.replicate 32 7) userKey), .exec 0, .exec 0,
    .start (.verify (.replicate 16 1) (loginWith firstAnswer)),
    .start (.verify (.replicate 16 2) (loginWith firstAnswer)), .exec 1, .exec 1, .exec 2, .exec 2,
    .exec 1, .exec 1, .exec 1, .exec 2, .exec 2, .exec 2]

/-- The `n`th and the `m`th event open sessions for challenges of one value. -/
def UsedAt (history : List SessionEvent) (n m : ℕ) : Prop :=
  ∃ e ∈ history[n]?, ∃ e' ∈ history[m]?,
    ∃ row ∈ usedChallenge? e (sentBy e.job (history.take n)),
    ∃ row' ∈ usedChallenge? e' (sentBy e'.job (history.take m)),
      row.challengeHex = row'.challengeHex

instance decidableUsedAt (history : List SessionEvent) (n m : ℕ) :
    Decidable (UsedAt history n m) := by
  unfold UsedAt
  infer_instance

theorem UsedAt.eq {s : FarmState} {history : List SessionEvent} {n m : ℕ}
    (h : UsedAt history n m) (hsingle : ChallengesSingleUse s history) : n = m := by
  obtain ⟨e, he, e', he', row, hrow, row', hrow', hvalue⟩ := h
  obtain ⟨hn, rfl⟩ := List.getElem?_eq_some_iff.mp he
  obtain ⟨hm, rfl⟩ := List.getElem?_eq_some_iff.mp he'
  have hsplit : ∀ (k : ℕ) (hk : k < history.length),
      history = history.take k ++ history[k] :: history.drop (k + 1) := by
    intro k hk
    rw [List.getElem_cons_drop, List.take_append_drop]
  have hsame := (hsingle.once _ _ _ _ _ _ (hsplit n hn) (hsplit m hm) row hrow row' hrow' hvalue).1
  have hlength := congrArg List.length hsame
  rw [List.length_take_of_le hn.le, List.length_take_of_le hm.le] at hlength
  exact hlength

/-- One challenge has opened two sessions. -/
theorem answerAtOnce_not_singleUse :
    ¬ ChallengesSingleUse newFarm (sessionRun sampleFarm answerAtOnce newFarm).history := by
  have hused : UsedAt (sessionRun sampleFarm answerAtOnce newFarm).history 8 11 := by
    decide +kernel
  intro hsingle
  have hsame := hused.eq hsingle
  omega

end Voxply.Farm
