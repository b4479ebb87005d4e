/-
# Every write of a login

`verify` sends a long sequence of statements.  What each of them can be is said here once,
apart from two that matter by themselves: the one that counts the use of an invite and the
one that consumes a challenge token.  The handler is cut in front of either, so that one
can tell of a login in progress whether that statement is next.
-/

import Voxply.Hub.VerifyStages
import Voxply.Math.Progress

namespace Voxply.Hub

open Voxply.Math Voxply.Identity

variable {lib : Crates} {env : LoginEnv} {req : VerifyRequest} {past : List (Sent AppState)}

/-! ## Writes -/

/-- What a login may send at any time: reads, and writes to the tables of members, bots,
sessions and roles. No update of a member touches the level that was proven. -/
inductive LoginWrite : (AppState → AppState) → Prop
  | read : LoginWrite id
  | take (publicKey : String) : LoginWrite fun s => s.setChallenge publicKey none
  | user (canonical : String) (f : UserRow → UserRow)
      (hkey : ∀ row, (f row).publicKey = row.publicKey)
      (hlevel : ∀ row, (f row).powLevel = row.powLevel) :
      LoginWrite (written (updateUser canonical f hkey))
  | profile (row : BotProfileRow) : LoginWrite (written (upsertBotProfile row))
  | clearCommands (pubkey : String) : LoginWrite (written (deleteBotCommands pubkey))
  | command (row : BotCommandRow) : LoginWrite (executed (insertBotCommand row))
  | member (canonical : String) (now : Int) (status : ApprovalStatus) (master : Option String) :
      LoginWrite (written (upsertUser canonical now status master))
  | session (row : SessionRow) : LoginWrite (executed (insertSession row))
  | role (row : UserRoleRow) : LoginWrite (executed (insertUserRole row))
  | roleOrIgnore (row : UserRoleRow) : LoginWrite (executed (insertUserRoleOrIgnore row))

/-- The condition on a statement that is one of those. -/
def loginWrites (_ : List (Sent AppState)) (sent : Sent AppState) : Prop :=
  LoginWrite sent.statement

theorem loginWrites_fetch (s : AppState) : loginWrites past ⟨id, s⟩ :=
  .read

section Stages

theorem answerChallenge_writes :
    (answerChallenge lib env req).Follows loginWrites (fun _ _ => True) past := by
  have htake : (takeChallenge req.publicKey).Follows loginWrites (fun _ _ => True) past := by
    intro s
    refine ⟨.take req.publicKey, ?_⟩
    exact Prog.follows_ofExcept fun _ _ => trivial
  apply htake.bind_any
  intro pending past _
  apply Prog.follows_ofExcept_bind
  intro answer _
  exact Prog.follows_ofExcept fun _ _ => trivial

theorem resolveCanonicalIdentity_writes (authPubkey : String) (cert : Option SubkeyCert) :
    (resolveCanonicalIdentity lib authPubkey cert).Follows loginWrites (fun _ _ => True) past := by
  apply Prog.follows_ofExcept_bind
  intro _ _
  cases cert with
  | none => trivial
  | some cert =>
      apply follows_fetch_bind loginWrites_fetch
      intro s
      cases s.db.userOfMaster cert.masterPubkey with
      | some canonical => trivial
      | none =>
          apply follows_fetch_bind loginWrites_fetch
          exact fun _ => trivial

theorem botGate_writes (canonical : String) :
    (botGate lib env req canonical).Follows loginWrites (fun _ _ => True) past := by
  apply Prog.follows_when _ fun _ => trivial
  intro _
  apply follows_fetch_bind loginWrites_fetch
  intro s
  apply Prog.follows_ensure_bind
  intro _
  apply follows_write_bind
  · exact fun _ => .user canonical _ _ fun _ => rfl
  intro s
  apply Prog.follows_whenSome _ fun _ => trivial
  intro botMeta _
  apply follows_write_bind
  · exact fun _ => .profile _
  intro s
  apply Prog.Follows.bind_any
  · apply Prog.follows_whenSome _ fun _ => trivial
    intro cmds _
    apply follows_write_bind
    · exact fun _ => .clearCommands _
    intro s
    apply Prog.follows_each
    intro cmd _ past _
    exact follows_execute (fun _ => .command _) fun _ _ _ => trivial
  intro _ past _
  exact follows_write (fun _ => .user canonical _ _ fun _ => rfl) fun _ => trivial

theorem admissionGates_writes (canonical : String) :
    (admissionGates lib env req canonical).Follows loginWrites (fun _ _ => True) past := by
  apply follows_fetch_bind loginWrites_fetch
  intro s
  apply Prog.follows_ensure_bind
  intro _
  apply follows_fetch_bind loginWrites_fetch
  intro _
  apply Prog.follows_ofExcept_bind
  intro _ _
  apply follows_fetch_bind loginWrites_fetch
  intro _
  apply Prog.follows_ofExcept_bind
  intro _ _
  apply Prog.Follows.bind_any
  · apply follows_fetch_bind loginWrites_fetch
    intro s
    apply Prog.follows_when _ fun _ => trivial
    intro _
    apply follows_fetch_bind loginWrites_fetch
    intro s
    apply follows_fetch_bind loginWrites_fetch
    intro s
    exact Prog.follows_ensure fun _ => trivial
  · exact fun _ _ _ => trivial

/-- The first half of a login. -/
theorem checkLogin_writes :
    (checkLogin lib env req).Follows loginWrites (fun _ _ => True) past := by
  apply answerChallenge_writes.bind_any
  intro _ past _
  apply (resolveCanonicalIdentity_writes req.publicKey req.subkeyCert).bind_any
  rintro ⟨canonical, master⟩ past -
  apply (botGate_writes canonical).bind_any
  intro _ past _
  apply (admissionGates_writes canonical).bind_any
  exact fun _ _ _ => trivial

theorem enroll_writes (canonical : String) (master : Option String) :
    (enroll env canonical master).Follows loginWrites (fun _ _ => True) past := by
  apply follows_fetch_bind loginWrites_fetch
  intro s
  apply follows_fetch_bind loginWrites_fetch
  intro s
  apply follows_write_bind
  · exact fun _ => .member ..
  intro s
  exact follows_execute (fun _ => .session _) fun _ _ _ => trivial

theorem assignRoles_writes (canonical : String) :
    (assignRoles env canonical).Follows loginWrites (fun _ _ => True) past := by
  apply follows_fetch_bind loginWrites_fetch
  intro s
  apply Prog.follows_when _ fun _ => trivial
  intro _
  apply follows_fetch_bind loginWrites_fetch
  intro s
  apply Prog.Follows.bind_any
  · apply Prog.follows_when _ fun _ => trivial
    intro _
    exact follows_execute (fun _ => .role _) fun _ _ _ => trivial
  intro _ past _
  exact follows_execute (fun _ => .roleOrIgnore _) fun _ _ _ => trivial

theorem sessionScope_writes (canonical : String) (minLevel : ℕ) :
    (sessionScope canonical minLevel).Follows loginWrites (fun _ _ => True) past := by
  apply follows_fetch_bind loginWrites_fetch
  intro s
  apply follows_fetch_bind loginWrites_fetch
  exact fun _ => trivial

end Stages

/-! ## The invite gate, cut in two -/

/-- The invite gate up to the statement that counts: the code that is to be counted, if
one is needed. -/
def findInvite (env : LoginEnv) (req : VerifyRequest) (canonical : String) :
    Handler (Option String) := do
  let hasRoles ← fetch (·.roleCount canonical)
  if hasRoles = 0 then do
    let inviteOnly ← fetch (·.isInviteOnly)
    if inviteOnly = true then
      match req.inviteCode with
      | some code => do
          let invite ← fetch (·.invites.find? code)
          .ofExcept (checkInvite env.inviteNow invite)
          pure (some code)
      | none => .fail ⟨.forbidden, "This hub requires an invite code"⟩
    else pure none
  else pure none

theorem inviteGate_eq (canonical : String) :
    inviteGate env req canonical =
      (findInvite env req canonical >>= fun code =>
        .whenSome code fun code => write (useInvite code)) := by
  unfold inviteGate findInvite
  rw [Prog.bind_assoc]
  congr 1
  funext hasRoles
  unfold Prog.when
  by_cases hnone : hasRoles = 0
  · rw [if_pos hnone, if_pos hnone, Prog.bind_assoc]
    congr 1
    funext inviteOnly
    by_cases honly : inviteOnly = true
    · rw [if_pos honly, if_pos honly]
      cases req.inviteCode with
      | none => rfl
      | some code =>
          dsimp only
          rw [validateAndUseInvite, Prog.bind_assoc]
          congr 1
          funext invite
          rw [Prog.bind_assoc]
          rfl
    · rw [if_neg honly, if_neg honly]
      rfl
  · rw [if_neg hnone, if_neg hnone]
    rfl

/-- The last thing that was read before a use is counted is the invite. -/
def FoundInvite (now : Int) (code : Option String) (past : List (Sent AppState)) : Prop :=
  ∀ found ∈ code, ∃ s, past.getLast? = some ⟨id, s⟩ ∧
    checkInvite now (s.db.invites.find? found) = .ok ()

theorem findInvite_writes (canonical : String) :
    (findInvite env req canonical).Follows loginWrites (FoundInvite env.inviteNow) past := by
  apply follows_fetch_bind loginWrites_fetch
  intro s
  split_ifs
  · apply follows_fetch_bind loginWrites_fetch
    intro s
    split_ifs
    · cases hcode : req.inviteCode with
      | none => trivial
      | some code =>
          apply follows_fetch_bind loginWrites_fetch
          intro s
          apply Prog.follows_ofExcept_bind
          intro _ hvalid found hfound
          rw [← Option.mem_some_iff.mp hfound]
          exact ⟨s, List.getLast?_concat .., hvalid⟩
    · exact Prog.follows_ret (by simp [FoundInvite])
  · exact Prog.follows_ret (by simp [FoundInvite])

/-- `verify` up to the statement that counts the use of an invite: the canonical key and
the minimum level, and the code. -/
def verifyToInvite (lib : Crates) (env : LoginEnv) (req : VerifyRequest) :
    Handler ((String × ℕ) × Option String) := do
  let (canonical, master, minLevel) ← checkLogin lib env req
  enroll env canonical master
  let code ← findInvite env req canonical
  pure ((canonical, minLevel), code)

/-- The rest of `verify`. -/
def verifyFromInvite (env : LoginEnv) (req : VerifyRequest) (member : String × ℕ) :
    Handler VerifyResponse := do
  assignRoles env member.1
  challengeGate env req
  let scope ← sessionScope member.1 member.2
  pure ⟨env.token, scope⟩

theorem verify_eq_invite :
    verify lib env req = (verifyToInvite lib env req >>= fun found =>
      .whenSome found.2 (fun code => write (useInvite code)) >>= fun _ =>
        verifyFromInvite env req found.1) := by
  unfold verify verifyToInvite
  rw [Prog.bind_assoc]
  congr 1
  funext ⟨canonical, master, minLevel⟩
  dsimp only
  unfold completeLogin
  rw [Prog.bind_assoc]
  congr 1
  funext _
  rw [inviteGate_eq, Prog.bind_assoc, Prog.bind_assoc]
  rfl

theorem verifyToInvite_writes :
    (verifyToInvite lib env req).Follows loginWrites
      (fun found => FoundInvite env.inviteNow found.2) past := by
  apply checkLogin_writes.bind_any
  rintro ⟨canonical, master, minLevel⟩ past -
  apply (enroll_writes canonical master).bind_any
  intro _ past _
  apply (findInvite_writes canonical).bind
  exact fun _ _ _ h => h

/-! ## The challenge gate, cut in two -/

/-- The challenge gate up to the statement that consumes the token. -/
def findChallengeToken (env : LoginEnv) (req : VerifyRequest) : Handler (Option String) := do
  let mode ← fetch (·.challengeMode)
  if mode ≠ "off" then
    match req.challengeToken with
    | none => .fail ⟨.forbidden, "Challenge token required"⟩
    | some token => do
        let row ← fetch (·.challengeTokens.find? token)
        .ofExcept (checkChallengeToken env.now req.publicKey row)
        pure (some token)
  else pure none

theorem challengeGate_eq :
    challengeGate env req = (findChallengeToken env req >>= fun token =>
      .whenSome token fun token => write (consumeChallengeToken token env.now)) := by
  unfold challengeGate findChallengeToken
  rw [Prog.bind_assoc]
  congr 1
  funext mode
  unfold Prog.when
  by_cases hmode : mode ≠ "off"
  · rw [if_pos hmode, if_pos hmode]
    cases req.challengeToken with
    | none => rfl
    | some token =>
        dsimp only
        rw [Prog.bind_assoc]
        congr 1
        funext row
        rw [Prog.bind_assoc]
        rfl
  · rw [if_neg hmode, if_neg hmode]
    rfl

theorem findChallengeToken_writes :
    (findChallengeToken env req).Follows loginWrites (fun _ _ => True) past := by
  apply follows_fetch_bind loginWrites_fetch
  intro s
  split_ifs
  · cases req.challengeToken with
    | none => trivial
    | some token =>
        apply follows_fetch_bind loginWrites_fetch
        intro s
        apply Prog.follows_ofExcept_bind
        exact fun _ _ => trivial
  · trivial

/-- `verify` up to the statement that consumes the challenge token: the canonical key and
the minimum level, and the token. -/
def verifyToChallenge (lib : Crates) (env : LoginEnv) (req : VerifyRequest) :
    Handler ((String × ℕ) × Option String) := do
  let (canonical, master, minLevel) ← checkLogin lib env req
  enroll env canonical master
  inviteGate env req canonical
  assignRoles env canonical
  let token ← findChallengeToken env req
  pure ((canonical, minLevel), token)

/-- The rest of `verify`. -/
def verifyFromChallenge (env : LoginEnv) (member : String × ℕ) : Handler VerifyResponse := do
  let scope ← sessionScope member.1 member.2
  pure ⟨env.token, scope⟩

theorem verifyToChallenge_follows (good : List (Sent AppState) → Sent AppState → Prop)
    (hgood : ∀ past sent, loginWrites past sent → good past sent)
    (huse : ∀ past code s, good past ⟨written (useInvite code), s⟩) :
    (verifyToChallenge lib env req).Follows good (fun _ _ => True) past := by
  apply (checkLogin_writes.mono (fun _ _ _ => hgood _ _) fun _ _ _ h => h).bind_any
  rintro ⟨canonical, master, minLevel⟩ past -
  apply ((enroll_writes canonical master).mono (fun _ _ _ => hgood _ _) fun _ _ _ h => h).bind_any
  intro _ past _
  apply Prog.Follows.bind_any
  · rw [inviteGate_eq]
    apply ((findInvite_writes canonical).mono (fun _ _ _ => hgood _ _) fun _ _ _ _ =>
      trivial).bind_any
    intro code past _
    apply Prog.follows_whenSome _ fun _ => trivial
    exact fun code _ => follows_write (huse _ code) fun _ => trivial
  intro _ past _
  apply ((assignRoles_writes canonical).mono (fun _ _ _ => hgood _ _) fun _ _ _ h => h).bind_any
  intro _ past _
  apply (findChallengeToken_writes.mono (fun _ _ _ => hgood _ _) fun _ _ _ h => h).bind_any
  exact fun _ _ _ => trivial

theorem verify_eq_challenge :
    verify lib env req = (verifyToChallenge lib env req >>= fun found =>
      .whenSome found.2 (fun token => write (consumeChallengeToken token env.now)) >>= fun _ =>
        verifyFromChallenge env found.1) := by
  unfold verify verifyToChallenge
  rw [Prog.bind_assoc]
  congr 1
  funext ⟨canonical, master, minLevel⟩
  dsimp only
  unfold completeLogin
  rw [Prog.bind_assoc]
  congr 1
  funext _
  rw [Prog.bind_assoc]
  congr 1
  funext _
  rw [Prog.bind_assoc]
  congr 1
  funext _
  rw [challengeGate_eq, Prog.bind_assoc, Prog.bind_assoc]
  rfl

/-- The whole of `verify`, for a condition that allows the two statements as well. -/
theorem verify_writes (good : List (Sent AppState) → Sent AppState → Prop)
    (hgood : ∀ past sent, loginWrites past sent → good past sent)
    (huse : ∀ past code s, good past ⟨written (useInvite code), s⟩)
    (hconsume : ∀ past token now s, good past ⟨written (consumeChallengeToken token now), s⟩) :
    (verify lib env req).Follows good (fun _ _ => True) past := by
  rw [verify_eq_challenge]
  apply (verifyToChallenge_follows good hgood huse).bind_any
  rintro ⟨member, token⟩ past -
  apply Prog.Follows.bind_any
  · apply Prog.follows_whenSome _ fun _ => trivial
    exact fun token _ => follows_write (hconsume _ token _) fun _ => trivial
  intro _ past _
  apply ((sessionScope_writes member.1 member.2).mono (fun _ _ _ => hgood _ _) fun _ _ _ h =>
    h).bind_any
  exact fun _ _ _ => trivial

/-! ## What a login leaves alone -/

def Db.powLevel (db : Db) (publicKey : String) : Int :=
  ((db.users.find? publicKey).map (·.powLevel)).getD 0

/-- The tables of the gates, the settings and the levels that were proven. -/
structure Spared (s t : AppState) : Prop where
  invites : t.db.invites = s.db.invites
  challengeTokens : t.db.challengeTokens = s.db.challengeTokens
  botChallenges : t.db.botChallenges = s.db.botChallenges
  hubSettings : t.db.hubSettings = s.db.hubSettings
  powLevel : ∀ publicKey, t.db.powLevel publicKey = s.db.powLevel publicKey

theorem Spared.refl (s : AppState) : Spared s s :=
  ⟨rfl, rfl, rfl, rfl, fun _ => rfl⟩

theorem powLevel_updateUser {canonical : String} {f : UserRow → UserRow}
    {hkey : ∀ row, (f row).publicKey = row.publicKey}
    (hlevel : ∀ row, (f row).powLevel = row.powLevel) (db : Db) (publicKey : String) :
    (updateUser canonical f hkey db).powLevel publicKey = db.powLevel publicKey := by
  unfold Db.powLevel updateUser
  rw [Table.find?_update, Option.map_map]
  congr 2
  funext row
  show (if _ then f row else row).powLevel = row.powLevel
  split_ifs
  · exact hlevel row
  · rfl

theorem powLevel_upsertUser (canonical : String) (now : Int) (status : ApprovalStatus)
    (master : Option String) (db : Db) (publicKey : String) :
    (upsertUser canonical now status master db).powLevel publicKey = db.powLevel publicKey := by
  unfold Db.powLevel
  rw [find?_upsertUser]
  by_cases hkey : publicKey = canonical
  · rw [if_pos hkey]
    cases db.users.find? publicKey <;> rfl
  · rw [if_neg hkey]

/-- An insertion that is refused changes nothing. -/
theorem spared_executed {f : Db → Except SqlError Db} {s : AppState}
    (h : ∀ db, f s.db = .ok db → Spared s (s.withDb db)) : Spared s (executed f s) := by
  rcases executed_cases f s with hsame | ⟨db, hdb, hafter⟩
  · rw [hsame]
    exact Spared.refl s
  · rw [hafter]
    exact h db hdb

theorem spared_insertUserRole {row : UserRoleRow} {s : AppState} {db : Db}
    (h : insertUserRole row s.db = .ok db) : Spared s (s.withDb db) := by
  unfold insertUserRole at h
  split at h
  · cases h
  · split_ifs at h
    cases h
    exact ⟨rfl, rfl, rfl, rfl, fun _ => rfl⟩

theorem LoginWrite.spared {statement : AppState → AppState} (h : LoginWrite statement)
    (s : AppState) : Spared s (statement s) := by
  cases h with
  | read => exact Spared.refl s
  | take publicKey => exact ⟨rfl, rfl, rfl, rfl, fun _ => rfl⟩
  | user canonical f hkey hlevel => exact ⟨rfl, rfl, rfl, rfl, powLevel_updateUser hlevel s.db⟩
  | profile row => exact ⟨rfl, rfl, rfl, rfl, fun _ => rfl⟩
  | clearCommands pubkey => exact ⟨rfl, rfl, rfl, rfl, fun _ => rfl⟩
  | member canonical now status master =>
      exact ⟨rfl, rfl, rfl, rfl, powLevel_upsertUser canonical now status master s.db⟩
  | command row =>
      apply spared_executed
      intro db hdb
      unfold insertBotCommand at hdb
      split at hdb
      · cases hdb
      · cases hdb
        exact ⟨rfl, rfl, rfl, rfl, fun _ => rfl⟩
  | session row =>
      apply spared_executed
      intro db hdb
      unfold insertSession at hdb
      split at hdb
      · cases hdb
      · split_ifs at hdb
        cases hdb
        exact ⟨rfl, rfl, rfl, rfl, fun _ => rfl⟩
  | role row => exact spared_executed fun db => spared_insertUserRole
  | roleOrIgnore row =>
      apply spared_executed
      intro db hdb
      unfold insertUserRoleOrIgnore at hdb
      split_ifs at hdb
      · cases hdb
        exact Spared.refl s
      · exact spared_insertUserRole hdb

end Voxply.Hub
