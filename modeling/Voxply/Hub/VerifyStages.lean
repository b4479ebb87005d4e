/-
# What the stages of a login do

One lemma for each stage of `verify` says what it answers and which rows it
writes when it runs alone.  The stages before the member row is written only
read, with the exception of the bot gate; the stages after it leave member rows
and sessions alone.  Results about whole logins are assembled from these lemmas
and do not unfold the handler again.
-/

import Voxply.Hub.Verify

namespace Voxply.Hub

open Voxply.Math Voxply.Identity

variable {lib : Crates} {env : LoginEnv} {req : VerifyRequest} {s : AppState}

/-! ## Challenge and identity -/

/-- Whether the answer to the pending challenge is accepted. -/
def challengeAnswer (lib : Crates) (env : LoginEnv) (req : VerifyRequest) :
    Option PendingChallenge → Except ApiError Unit
  | none => .error ⟨.unauthorized, "No pending challenge for this key"⟩
  | some pending =>
      match answeredChallenge env.instant req.challenge req.signature pending with
      | .error e => .error e
      | .ok (challengeBytes, signatureBytes) =>
          checkLoginSignature lib.ed25519 req.publicKey challengeBytes signatureBytes

/-- An accepted answer is in time, repeats the challenge and carries a signature
of it. -/
theorem challengeAnswer_ok {pending : Option PendingChallenge}
    (h : challengeAnswer lib env req pending = .ok ()) :
    ∃ found signatureBytes, pending = some found ∧ env.instant ≤ found.expiresAt ∧
      hexDecode req.challenge = some found.challengeBytes ∧
      hexDecode req.signature = some signatureBytes ∧
      verifySignature lib.ed25519 req.publicKey found.challengeBytes signatureBytes = .ok () := by
  cases pending with
  | none => cases h
  | some found =>
      unfold challengeAnswer answeredChallenge at h
      dsimp only at h
      split_ifs at h with hexpired
      rcases hchallenge : hexDecode req.challenge with - | challengeBytes
      · simp [hchallenge] at h
      by_cases hsame : challengeBytes = found.challengeBytes
      · rcases hsignature : hexDecode req.signature with - | signatureBytes
        · simp [hchallenge, hsignature, hsame] at h
        simp only [hchallenge, hsignature, hsame, ne_eq, not_true_eq_false, if_false] at h
        refine ⟨found, signatureBytes, rfl, Nat.le_of_not_gt hexpired, ?_, rfl, ?_⟩
        · rw [hsame]
        · exact mapError_eq_ok_iff.mp h
      · simp [hchallenge, hsame] at h

theorem run_takeChallenge (publicKey : String) (s : AppState) :
    (takeChallenge publicKey).run s =
      ((s.pendingChallenges publicKey).elim
        (.error ⟨.unauthorized, "No pending challenge for this key"⟩) .ok,
        s.setChallenge publicKey none) :=
  Prog.run_ofExcept _ _

/-- The first stage consumes the challenge, whatever it answers. -/
theorem run_answerChallenge :
    (answerChallenge lib env req).run s =
      (challengeAnswer lib env req (s.pendingChallenges req.publicKey),
        s.setChallenge req.publicKey none) := by
  unfold answerChallenge challengeAnswer
  have htake := run_takeChallenge req.publicKey s
  cases hpending : s.pendingChallenges req.publicKey with
  | none =>
      rw [hpending] at htake
      exact Prog.run_bind_of_error htake
  | some pending =>
      rw [hpending] at htake
      rw [Prog.run_bind_of_ok htake, Prog.run_bind', Prog.run_ofExcept]
      dsimp only
      cases answeredChallenge env.instant req.challenge req.signature pending with
      | error e => rfl
      | ok answer => exact Prog.run_ofExcept _ _

/-- The identity a key stands for. -/
def Db.canonical (db : Db) (authPubkey : String) : Option SubkeyCert → String × Option String
  | none => (authPubkey, none)
  | some cert =>
      match db.userOfMaster cert.masterPubkey with
      | some canonical => (canonical, some cert.masterPubkey)
      | none => ((db.legacyUser authPubkey).getD cert.masterPubkey, some cert.masterPubkey)

theorem run_resolveCanonicalIdentity (authPubkey : String) (cert : Option SubkeyCert) :
    (resolveCanonicalIdentity lib authPubkey cert).run s =
      ((checkCert lib.ed25519 authPubkey cert).map fun _ => s.db.canonical authPubkey cert, s) := by
  unfold resolveCanonicalIdentity
  rw [Prog.run_bind', Prog.run_ofExcept]
  cases checkCert lib.ed25519 authPubkey cert with
  | error e => rfl
  | ok _ =>
      cases cert with
      | none => rfl
      | some cert =>
          change ((fetch (·.userOfMaster cert.masterPubkey) >>= _ : Handler _)).run s = _
          rw [Prog.run_bind_of_ok (run_fetch _ s), Except.map, Db.canonical]
          cases s.db.userOfMaster cert.masterPubkey with
          | none => rfl
          | some canonical => rfl

/-! ## Admission gates -/

/-- Whether the certification gate lets the request pass. -/
def Db.certCheck (db : Db) (lib : Crates) (env : LoginEnv) (req : VerifyRequest) :
    Except ApiError Unit :=
  let mode := (db.setting "cert_mode").getD "none"
  if mode ≠ "none" ∧ (req.certifications.getD []).any (certSatisfies lib env.certNow mode
      ((req.subkeyCert.map (·.masterPubkey)).getD req.publicKey)
      ((lib.readTrustedIssuers ((db.setting "cert_trusted_issuers").getD "[]")).getD [])
      ((lib.readCertRequire ((db.setting "cert_require").getD "\x7b\x7d")).getD {})) = false then
    .error ⟨.forbidden, "cert_required"⟩
  else .ok ()

theorem run_certGate : (certGate lib env req).run s = (s.db.certCheck lib env req, s) := by
  unfold certGate loadCertMode loadTrustedIssuers loadCertRequire Db.certCheck
  rw [Prog.run_bind_of_ok (run_fetch _ s), Prog.when]
  dsimp only
  by_cases hmode : (s.db.setting "cert_mode").getD "none" = "none"
  · simp [hmode]
  · rw [if_pos hmode, Prog.run_bind_of_ok (run_fetch _ s), Prog.run_bind_of_ok (run_fetch _ s)]
    split_ifs with hrefused
    · exact Prog.run_ensure_of_neg (by simpa using hrefused.2) _ s
    · exact Prog.run_ensure_of_pos (by simpa [hmode] using hrefused) _ s

/-- What the admission gates answer: the minimum security level, or the error
of the first gate that refuses. -/
def Db.admission (db : Db) (lib : Crates) (env : LoginEnv) (req : VerifyRequest)
    (canonical : String) : Except ApiError ℕ :=
  if db.bans.has canonical then .error ⟨.forbidden, "User is banned"⟩
  else match checkSecurityLevel lib req db.minSecurityLevel with
    | .error e => .error e
    | .ok _ => match checkPowProof lib req db.minPowLevel with
      | .error e => .error e
      | .ok _ => match db.certCheck lib env req with
        | .error e => .error e
        | .ok _ => .ok db.minSecurityLevel

/-- The gates read and decide, and write nothing. -/
theorem run_admissionGates (canonical : String) :
    (admissionGates lib env req canonical).run s =
      (s.db.admission lib env req canonical, s) := by
  unfold admissionGates isBanned Db.admission
  rw [Prog.run_bind_of_ok (run_fetch _ s)]
  by_cases hbanned : s.db.bans.has canonical = true
  · rw [if_pos hbanned]
    exact Prog.run_bind_of_error (Prog.run_ensure_of_neg (by simpa using hbanned) _ s)
  · rw [if_neg hbanned, Prog.run_bind_of_ok (Prog.run_ensure_of_pos hbanned _ s),
      Prog.run_bind_of_ok (run_fetch _ s), Prog.run_bind', Prog.run_ofExcept]
    cases checkSecurityLevel lib req s.db.minSecurityLevel with
    | error e => rfl
    | ok _ =>
        dsimp only
        rw [Prog.run_bind_of_ok (run_fetch _ s), Prog.run_bind', Prog.run_ofExcept]
        cases checkPowProof lib req s.db.minPowLevel with
        | error e => rfl
        | ok _ =>
            dsimp only
            rw [Prog.run_bind', run_certGate]
            cases s.db.certCheck lib env req with
            | error e => rfl
            | ok _ => rfl

/-! ## Bot gate -/

/-- Who the member rows say they are: for every key with a row, the master
recorded in it. -/
def Db.registry (db : Db) (publicKey : String) : Option (Option String) :=
  (db.users.find? publicKey).map (·.masterPubkey)

/-- What the bot gate may change: flags of member rows, profiles and commands.
Everything the later stages read is left alone. -/
structure BotFrame (s t : AppState) : Prop where
  registry : t.db.registry = s.db.registry
  userCount : t.db.users.rows.length = s.db.users.rows.length
  sessions : t.db.sessions = s.db.sessions
  roles : t.db.roles = s.db.roles
  userRoles : t.db.userRoles = s.db.userRoles
  bans : t.db.bans = s.db.bans
  invites : t.db.invites = s.db.invites
  hubSettings : t.db.hubSettings = s.db.hubSettings
  botTokens : t.db.botTokens = s.db.botTokens
  challengeTokens : t.db.challengeTokens = s.db.challengeTokens
  subkeyRevocations : t.db.subkeyRevocations = s.db.subkeyRevocations

theorem BotFrame.refl (s : AppState) : BotFrame s s :=
  ⟨rfl, rfl, rfl, rfl, rfl, rfl, rfl, rfl, rfl, rfl, rfl⟩

theorem BotFrame.trans (a b c : AppState) (hab : BotFrame a b) (hbc : BotFrame b c) :
    BotFrame a c where
  registry := hbc.registry.trans hab.registry
  userCount := hbc.userCount.trans hab.userCount
  sessions := hbc.sessions.trans hab.sessions
  roles := hbc.roles.trans hab.roles
  userRoles := hbc.userRoles.trans hab.userRoles
  bans := hbc.bans.trans hab.bans
  invites := hbc.invites.trans hab.invites
  hubSettings := hbc.hubSettings.trans hab.hubSettings
  botTokens := hbc.botTokens.trans hab.botTokens
  challengeTokens := hbc.challengeTokens.trans hab.challengeTokens
  subkeyRevocations := hbc.subkeyRevocations.trans hab.subkeyRevocations

/-- Rewriting columns that do not decide the identity. -/
theorem botFrame_updateUser {publicKey : String} {f : UserRow → UserRow}
    (hkey : ∀ row, (f row).publicKey = row.publicKey)
    (hmaster : ∀ row, (f row).masterPubkey = row.masterPubkey) (s : AppState) :
    BotFrame s (s.withDb (updateUser publicKey f hkey s.db)) := by
  refine ⟨?_, ?_, rfl, rfl, rfl, rfl, rfl, rfl, rfl, rfl, rfl⟩
  · funext key
    change ((s.db.users.update _ f hkey).find? key).map _ = _
    rw [Table.find?_update, Option.map_map, Db.registry]
    congr 1
    funext row
    by_cases hrow : row.publicKey = publicKey <;> simp [hrow, hmaster]
  · exact List.length_map _

theorem changes_registerBot (canonical : String) (botMeta : BotMeta) :
    (registerBot lib env canonical botMeta).Changes BotFrame := by
  apply Prog.Changes.bind BotFrame.trans
  · exact changes_write fun s => ⟨rfl, rfl, rfl, rfl, rfl, rfl, rfl, rfl, rfl, rfl, rfl⟩
  intro _
  apply Prog.Changes.bind BotFrame.trans
  · apply Prog.changes_whenSome BotFrame.refl
    intro cmds
    apply Prog.Changes.bind BotFrame.trans
    · exact changes_write fun s => ⟨rfl, rfl, rfl, rfl, rfl, rfl, rfl, rfl, rfl, rfl, rfl⟩
    intro _
    apply Prog.changes_each BotFrame.refl BotFrame.trans
    intro cmd
    apply changes_execute BotFrame.refl
    intro s db hdb
    unfold insertBotCommand at hdb
    split at hdb
    · cases hdb
    · cases hdb
      exact ⟨rfl, rfl, rfl, rfl, rfl, rfl, rfl, rfl, rfl, rfl, rfl⟩
  intro _
  apply changes_write
  intro s
  apply botFrame_updateUser
  intro row
  rfl

theorem changes_botGate (canonical : String) :
    (botGate lib env req canonical).Changes BotFrame := by
  apply Prog.changes_when BotFrame.refl
  apply Prog.Changes.bind BotFrame.trans (Prog.changes_query BotFrame.refl _)
  intro _
  apply Prog.Changes.bind BotFrame.trans (Prog.changes_ensure BotFrame.refl)
  intro _
  apply Prog.Changes.bind BotFrame.trans
  · apply changes_write
    intro s
    apply botFrame_updateUser
    intro row
    rfl
  intro _
  exact Prog.changes_whenSome BotFrame.refl (changes_registerBot canonical)

/-! ## The first half -/

theorem BotFrame.setting {t : AppState} (h : BotFrame s t) (key : String) :
    t.db.setting key = s.db.setting key := by
  rw [Db.setting, Db.setting, h.hubSettings]

theorem BotFrame.admission {t : AppState} (h : BotFrame s t) (canonical : String) :
    t.db.admission lib env req canonical = s.db.admission lib env req canonical := by
  simp only [Db.admission, Db.minSecurityLevel, Db.minPowLevel, Db.certCheck, h.bans, h.setting]

/-- The first half only runs stages that stay within the frame of the bot
gate, apart from taking the challenge. -/
theorem botFrame_checkLogin :
    BotFrame (s.setChallenge req.publicKey none) ((checkLogin lib env req).run s).2 := by
  unfold checkLogin
  rw [Prog.run_bind', run_answerChallenge]
  cases challengeAnswer lib env req (s.pendingChallenges req.publicKey) with
  | error e => exact BotFrame.refl _
  | ok _ =>
      dsimp only
      rw [Prog.run_bind', run_resolveCanonicalIdentity]
      cases checkCert lib.ed25519 req.publicKey req.subkeyCert with
      | error e => exact BotFrame.refl _
      | ok _ =>
          apply Prog.Changes.bind BotFrame.trans (changes_botGate _)
          intro _
          apply Prog.Changes.bind BotFrame.trans
          · intro t
            rw [run_admissionGates]
            exact BotFrame.refl t
          · exact fun _ => Prog.changes_ret BotFrame.refl _

/-- A login that passes the first half: the challenge and the certificate were
accepted, the identity was resolved in the first state, and the gates let it
pass. -/
theorem checkLogin_ok {t : AppState} {canonical : String} {master : Option String} {minLevel : ℕ}
    (h : (checkLogin lib env req).run s = (.ok (canonical, master, minLevel), t)) :
    challengeAnswer lib env req (s.pendingChallenges req.publicKey) = .ok () ∧
    checkCert lib.ed25519 req.publicKey req.subkeyCert = .ok () ∧
    s.db.canonical req.publicKey req.subkeyCert = (canonical, master) ∧
    (botGate lib env req canonical).run (s.setChallenge req.publicKey none) = (.ok (), t) ∧
    s.db.admission lib env req canonical = .ok minLevel := by
  rcases Prog.run_bind_cases h with ⟨e, -, he⟩ | ⟨_, u, hchallenge, h⟩
  · cases he
  rw [run_answerChallenge, Prod.mk.injEq] at hchallenge
  obtain ⟨hchallenge, rfl⟩ := hchallenge
  rcases Prog.run_bind_cases h with ⟨e, -, he⟩ | ⟨identity, u, hresolve, h⟩
  · cases he
  rw [run_resolveCanonicalIdentity, Prod.mk.injEq] at hresolve
  obtain ⟨hresolve, rfl⟩ := hresolve
  rcases Prog.run_bind_cases h with ⟨e, -, he⟩ | ⟨_, u, hbot, h⟩
  · cases he
  rcases Prog.run_bind_cases h with ⟨e, -, he⟩ | ⟨level, v, hgates, h⟩
  · cases he
  rw [run_admissionGates, Prod.mk.injEq] at hgates
  obtain ⟨hgates, rfl⟩ := hgates
  cases h
  have hframe : BotFrame (s.setChallenge req.publicKey none) t := by
    have hchanges : BotFrame _ ((botGate lib env req identity.1).run _).2 :=
      changes_botGate _ (s.setChallenge req.publicKey none)
    rwa [hbot] at hchanges
  cases hcert : checkCert lib.ed25519 req.publicKey req.subkeyCert with
  | error e =>
      rw [hcert] at hresolve
      cases hresolve
  | ok _ =>
      rw [hcert] at hresolve
      cases hresolve
      exact ⟨hchallenge, rfl, rfl, hbot, (hframe.admission _).symm.trans hgates⟩

/-! ## Member row and session -/

/-- The status a new member would get. -/
def Db.newMemberStatus (db : Db) : ApprovalStatus :=
  initialStatus (decide (db.setting "require_approval" = some "true")) db.users.rows.length

theorem find?_upsertUser (canonical : String) (now : Int) (status : ApprovalStatus)
    (master : Option String) (db : Db) (key : String) :
    (upsertUser canonical now status master db).users.find? key =
      if key = canonical then
        some (((db.users.find? key).map fun old =>
          { old with lastSeenAt := now, masterPubkey := old.masterPubkey.or master }).getD
          { publicKey := canonical, firstSeenAt := now, lastSeenAt := now,
            approvalStatus := status, masterPubkey := master })
      else db.users.find? key :=
  Table.find?_upsert ..

/-- Replace the sessions. -/
def Db.withSessions (db : Db) (sessions : Table SessionRow SessionRow.token) : Db :=
  { db with sessions := sessions }

/-- The member row is written in any case, the session unless its token is
taken. -/
theorem run_enroll (canonical : String) (master : Option String) :
    (enroll env canonical master).run s =
      match s.db.sessions.insert? ⟨env.token, canonical, env.now⟩ with
      | none => (.error (dbError (.primaryKey "sessions.token")),
          s.withDb (upsertUser canonical env.now s.db.newMemberStatus master s.db))
      | some sessions => (.ok (),
          s.withDb ((upsertUser canonical env.now s.db.newMemberStatus master s.db).withSessions
            sessions)) := by
  unfold enroll
  rw [Prog.run_bind_of_ok (run_fetch _ s), Prog.run_bind_of_ok (run_fetch _ s),
    Prog.run_bind_of_ok (run_write _ s)]
  cases hinsert : s.db.sessions.insert? ⟨env.token, canonical, env.now⟩ with
  | none =>
      apply run_execute_of_error
      change insertSession _ (upsertUser canonical env.now s.db.newMemberStatus master s.db) = _
      unfold insertSession
      change (match s.db.sessions.insert? _ with | none => _ | some sessions => _) = _
      rw [hinsert]
  | some sessions =>
      apply run_execute_of_ok
      change insertSession _ (upsertUser canonical env.now s.db.newMemberStatus master s.db) = _
      unfold insertSession
      change (match s.db.sessions.insert? _ with | none => _ | some sessions => _) = _
      rw [hinsert]
      have hhas := find?_upsertUser canonical env.now s.db.newMemberStatus master s.db canonical
      rw [if_pos rfl] at hhas
      exact if_pos (Table.has_of_find? hhas)

/-! ## Invites, roles and challenge tokens -/

section Stages

variable {rel : AppState → AppState → Prop} (hrefl : ∀ a, rel a a)
  (htrans : ∀ a b c, rel a b → rel b c → rel a c)

include hrefl htrans

/-- The invite gate only counts a use of the invite. -/
theorem changes_inviteGate (huse : ∀ s code, rel s (s.withDb (useInvite code s.db)))
    (canonical : String) : (inviteGate env req canonical).Changes rel := by
  apply Prog.Changes.bind htrans (Prog.changes_query hrefl _)
  intro _
  apply Prog.changes_when hrefl
  apply Prog.Changes.bind htrans (Prog.changes_query hrefl _)
  intro _
  apply Prog.changes_when hrefl
  cases req.inviteCode with
  | none => exact Prog.changes_fail hrefl _
  | some code =>
      apply Prog.Changes.bind htrans (Prog.changes_query hrefl _)
      intro _
      apply Prog.Changes.bind htrans (Prog.changes_ofExcept hrefl _)
      exact fun _ => changes_write fun s => huse s code

/-- Assigning roles only inserts role assignments. -/
theorem changes_assignRoles
    (hinsert : ∀ s row db, insertUserRole row s.db = .ok db → rel s (s.withDb db))
    (canonical : String) : (assignRoles env canonical).Changes rel := by
  apply Prog.Changes.bind htrans (Prog.changes_query hrefl _)
  intro _
  apply Prog.changes_when hrefl
  apply Prog.Changes.bind htrans (Prog.changes_query hrefl _)
  intro _
  apply Prog.Changes.bind htrans
  · apply Prog.changes_when hrefl
    exact changes_execute hrefl fun s db => hinsert s _ db
  intro _
  apply changes_execute hrefl
  intro s db hdb
  unfold insertUserRoleOrIgnore at hdb
  split_ifs at hdb
  · cases hdb
    exact hrefl s
  · exact hinsert s _ db hdb

/-- The challenge-token gate only consumes the token. -/
theorem changes_challengeGate
    (hconsume : ∀ s token now, rel s (s.withDb (consumeChallengeToken token now s.db))) :
    (challengeGate env req).Changes rel := by
  apply Prog.Changes.bind htrans (Prog.changes_query hrefl _)
  intro _
  apply Prog.changes_when hrefl
  cases req.challengeToken with
  | none => exact Prog.changes_fail hrefl _
  | some token =>
      apply Prog.Changes.bind htrans (Prog.changes_query hrefl _)
      intro _
      apply Prog.Changes.bind htrans (Prog.changes_ofExcept hrefl _)
      exact fun _ => changes_write fun s => hconsume s token env.now

end Stages

/-- What the last stages may change: role assignments, invites and challenge
tokens. -/
structure LateFrame (s t : AppState) : Prop where
  users : t.db.users = s.db.users
  sessions : t.db.sessions = s.db.sessions
  roles : t.db.roles = s.db.roles
  hubSettings : t.db.hubSettings = s.db.hubSettings
  botTokens : t.db.botTokens = s.db.botTokens
  subkeyRevocations : t.db.subkeyRevocations = s.db.subkeyRevocations

theorem LateFrame.refl (s : AppState) : LateFrame s s :=
  ⟨rfl, rfl, rfl, rfl, rfl, rfl⟩

theorem LateFrame.trans (a b c : AppState) (hab : LateFrame a b) (hbc : LateFrame b c) :
    LateFrame a c :=
  ⟨hbc.users.trans hab.users, hbc.sessions.trans hab.sessions, hbc.roles.trans hab.roles,
    hbc.hubSettings.trans hab.hubSettings, hbc.botTokens.trans hab.botTokens,
    hbc.subkeyRevocations.trans hab.subkeyRevocations⟩

theorem lateFrame_insertUserRole {row : UserRoleRow} {db : Db}
    (h : insertUserRole row s.db = .ok db) : LateFrame s (s.withDb db) := by
  unfold insertUserRole at h
  split at h
  · cases h
  · split_ifs at h
    cases h
    exact ⟨rfl, rfl, rfl, rfl, rfl, rfl⟩

theorem lateFrame_insertUserRoleOrIgnore {row : UserRoleRow} {db : Db}
    (h : insertUserRoleOrIgnore row s.db = .ok db) : LateFrame s (s.withDb db) := by
  unfold insertUserRoleOrIgnore at h
  split_ifs at h
  · cases h
    exact LateFrame.refl s
  · exact lateFrame_insertUserRole h

theorem changes_sessionScope (canonical : String) (minLevel : ℕ) :
    (sessionScope canonical minLevel).Changes LateFrame := by
  apply Prog.Changes.bind LateFrame.trans (Prog.changes_query LateFrame.refl _)
  intro _
  apply Prog.Changes.bind LateFrame.trans (Prog.changes_query LateFrame.refl _)
  exact fun _ => Prog.changes_ret LateFrame.refl _

/-- The stages after the session. -/
theorem changes_late (env : LoginEnv) (req : VerifyRequest) (canonical : String) (minLevel : ℕ) :
    (do
      inviteGate env req canonical
      assignRoles env canonical
      challengeGate env req
      let scope ← sessionScope canonical minLevel
      pure ⟨env.token, scope⟩ : Handler VerifyResponse).Changes LateFrame := by
  apply Prog.Changes.bind LateFrame.trans
  · exact changes_inviteGate LateFrame.refl LateFrame.trans
      (fun s code => ⟨rfl, rfl, rfl, rfl, rfl, rfl⟩) canonical
  intro _
  apply Prog.Changes.bind LateFrame.trans
  · exact changes_assignRoles LateFrame.refl LateFrame.trans
      (fun s row db => lateFrame_insertUserRole) canonical
  intro _
  apply Prog.Changes.bind LateFrame.trans
  · exact changes_challengeGate LateFrame.refl LateFrame.trans
      fun s token now => ⟨rfl, rfl, rfl, rfl, rfl, rfl⟩
  intro _
  apply Prog.Changes.bind LateFrame.trans (changes_sessionScope canonical minLevel)
  exact fun _ => Prog.changes_ret LateFrame.refl _

/-! ## Whole logins -/

/-- What a login leaves in the tables that decide who is logged in: nothing new,
or the member row of the resolved identity and, unless the token was taken, its
session. -/
inductive LoginEffect (lib : Crates) (env : LoginEnv) (req : VerifyRequest) (s t : AppState) : Prop
  | refused (hregistry : t.db.registry = s.db.registry) (hsessions : t.db.sessions = s.db.sessions)
  | enrolled (canonical : String) (master : Option String)
      (hchallenge : challengeAnswer lib env req (s.pendingChallenges req.publicKey) = .ok ())
      (hcert : checkCert lib.ed25519 req.publicKey req.subkeyCert = .ok ())
      (hcanonical : s.db.canonical req.publicKey req.subkeyCert = (canonical, master))
      (hregistry : ∀ key, t.db.registry key =
        if key = canonical then some (((s.db.registry key).getD none).or master)
        else s.db.registry key)
      (hsessions : t.db.sessions = s.db.sessions ∨
        (∀ row ∈ s.db.sessions.rows, row.token ≠ env.token) ∧
          t.db.sessions.rows = s.db.sessions.rows ++ [⟨env.token, canonical, env.now⟩])

/-- The frame in which every login stays. -/
structure LoginFrame (s t : AppState) : Prop where
  hubSettings : t.db.hubSettings = s.db.hubSettings
  botTokens : t.db.botTokens = s.db.botTokens
  subkeyRevocations : t.db.subkeyRevocations = s.db.subkeyRevocations

/-- A login either ends in the first half or goes on to write the member row. -/
theorem run_verify_cases (lib : Crates) (env : LoginEnv) (req : VerifyRequest) (s : AppState) :
    (∃ e t, (checkLogin lib env req).run s = (.error e, t) ∧
      (verify lib env req).run s = (.error e, t)) ∨
    ∃ canonical master minLevel t,
      (checkLogin lib env req).run s = (.ok (canonical, master, minLevel), t) ∧
      (verify lib env req).run s = (completeLogin env req canonical master minLevel).run t := by
  rcases hcheck : (checkLogin lib env req).run s with ⟨e | ⟨canonical, master, minLevel⟩, t⟩
  · exact .inl ⟨e, t, rfl, Prog.run_bind_of_error hcheck⟩
  · refine .inr ⟨canonical, master, minLevel, t, rfl, ?_⟩
    unfold verify
    rw [Prog.run_bind_of_ok hcheck]

theorem registry_upsertUser (canonical : String) (now : Int) (status : ApprovalStatus)
    (master : Option String) (db : Db) (key : String) :
    (upsertUser canonical now status master db).registry key =
      if key = canonical then some (((db.registry key).getD none).or master)
      else db.registry key := by
  unfold Db.registry
  rw [find?_upsertUser]
  split_ifs with hkey
  · cases db.users.find? key with
    | none => rfl
    | some row => rfl
  · rfl

/-- The second half writes the member row in any case. -/
theorem completeLogin_effect (env : LoginEnv) (req : VerifyRequest) (s : AppState)
    (canonical : String) (master : Option String) (minLevel : ℕ) :
    let t := ((completeLogin env req canonical master minLevel).run s).2
    (∀ key, t.db.registry key =
      if key = canonical then some (((s.db.registry key).getD none).or master)
      else s.db.registry key) ∧
    (t.db.sessions = s.db.sessions ∨
      (∀ row ∈ s.db.sessions.rows, row.token ≠ env.token) ∧
        t.db.sessions.rows = s.db.sessions.rows ++ [⟨env.token, canonical, env.now⟩]) ∧
    LoginFrame s t := by
  have hupsert := registry_upsertUser canonical env.now s.db.newMemberStatus master s.db
  unfold completeLogin
  rw [Prog.run_bind', run_enroll]
  cases hinsert : s.db.sessions.insert? ⟨env.token, canonical, env.now⟩ with
  | none => exact ⟨hupsert, .inl rfl, rfl, rfl, rfl⟩
  | some sessions =>
      have hlate := changes_late env req canonical minLevel
        (s.withDb ((upsertUser canonical env.now s.db.newMemberStatus master s.db).withSessions
          sessions))
      refine ⟨?_, .inr ?_, hlate.hubSettings, hlate.botTokens, hlate.subkeyRevocations⟩
      · intro key
        rw [← hupsert key]
        exact congrArg (fun users => (users.find? key).map UserRow.masterPubkey) hlate.users
      · rw [Table.insert?_eq_some_iff] at hinsert
        exact ⟨hinsert.1, (congrArg Table.rows hlate.sessions).trans hinsert.2⟩

theorem verify_effect_frame : LoginEffect lib env req s ((verify lib env req).run s).2 ∧
    LoginFrame s ((verify lib env req).run s).2 := by
  have hbot : BotFrame (s.setChallenge req.publicKey none) ((checkLogin lib env req).run s).2 :=
    botFrame_checkLogin
  rcases run_verify_cases lib env req s with
    ⟨e, t, hcheck, hrun⟩ | ⟨canonical, master, minLevel, t, hcheck, hrun⟩
  · rw [hcheck] at hbot
    rw [hrun]
    exact ⟨.refused hbot.registry hbot.sessions, hbot.hubSettings, hbot.botTokens,
      hbot.subkeyRevocations⟩
  · rw [hcheck] at hbot
    obtain ⟨hchallenge, hcert, hcanonical, -, -⟩ := checkLogin_ok hcheck
    obtain ⟨hregistry, hsessions, hframe⟩ :=
      completeLogin_effect env req t canonical master minLevel
    rw [← hrun, hbot.registry] at hregistry
    rw [← hrun, hbot.sessions] at hsessions
    rw [← hrun] at hframe
    exact ⟨.enrolled canonical master hchallenge hcert hcanonical hregistry hsessions,
      hframe.hubSettings.trans hbot.hubSettings, hframe.botTokens.trans hbot.botTokens,
      hframe.subkeyRevocations.trans hbot.subkeyRevocations⟩

theorem verify_effect : LoginEffect lib env req s ((verify lib env req).run s).2 :=
  verify_effect_frame.1

theorem verify_frame : LoginFrame s ((verify lib env req).run s).2 :=
  verify_effect_frame.2

end Voxply.Hub
