/-
# What a refused login leaves behind

`verify` sends its statements one by one and rolls nothing back.  This module
says exactly which refused logins leave rows behind: those refused after the
member row and the session were written, by the invite gate, for want of a
built-in role or by the challenge-token gate; and those of an invited bot that
are refused after the bot's description was stored, unless the description says
what the tables say already.
-/

import Voxply.Hub.CanonicalIdentity

namespace Voxply.Hub

open Voxply.Math Voxply.Identity

variable {lib : Crates} {env : LoginEnv} {req : VerifyRequest} {s t : AppState}

/-! ## The property -/

/-- The tables that a login writes hold the same rows. -/
structure SameTables (before after : Db) : Prop where
  users : after.users.SameRows before.users
  sessions : after.sessions.SameRows before.sessions
  userRoles : after.userRoles.SameRows before.userRoles
  invites : after.invites.SameRows before.invites
  botProfiles : after.botProfiles.SameRows before.botProfiles
  botCommands : after.botCommands.SameRows before.botCommands
  challengeTokens : after.challengeTokens.SameRows before.challengeTokens

theorem SameTables.refl (db : Db) : SameTables db db :=
  ⟨.refl _, .refl _, .refl _, .refl _, .refl _, .refl _, .refl _⟩

/-- A login that answers with an error leaves the tables as they were. -/
def AllOrNothing (lib : Crates) (env : LoginEnv) (req : VerifyRequest) (s : AppState) : Prop :=
  ∀ e, ((verify lib env req).run s).1 = .error e → SameTables s.db ((verify lib env req).run s).2.db

/-! ## The checks of the last stages -/

/-- What the invite gate answers. -/
def Db.inviteCheck (db : Db) (env : LoginEnv) (req : VerifyRequest) (canonical : String) :
    Except ApiError Unit :=
  if db.roleCount canonical = 0 ∧ db.isInviteOnly = true then
    match req.inviteCode with
    | none => .error ⟨.forbidden, "This hub requires an invite code"⟩
    | some code => checkInvite env.inviteNow (db.invites.find? code)
  else .ok ()

/-- Whether the built-in roles that a new member needs are there. -/
def Db.RolesAssignable (db : Db) (canonical : String) : Prop :=
  db.roleCount canonical = 0 →
    (db.userRoles.rows.any (·.roleId = "builtin-owner") = true ∨
      db.roles.has "builtin-owner" = true) ∧ db.roles.has "builtin-everyone" = true

/-- What the challenge-token gate answers. -/
def Db.challengeCheck (db : Db) (env : LoginEnv) (req : VerifyRequest) : Except ApiError Unit :=
  if db.challengeMode = "off" then .ok ()
  else match req.challengeToken with
    | none => .error ⟨.forbidden, "Challenge token required"⟩
    | some token => checkChallengeToken env.now req.publicKey (db.challengeTokens.find? token)

theorem run_inviteGate_fst (canonical : String) :
    ((inviteGate env req canonical).run s).1 = s.db.inviteCheck env req canonical := by
  unfold inviteGate Db.inviteCheck
  rw [Prog.run_bind_of_ok (run_fetch _ s), Prog.when]
  by_cases hroles : s.db.roleCount canonical = 0
  · rw [if_pos hroles, Prog.run_bind_of_ok (run_fetch _ s), Prog.when]
    by_cases honly : s.db.isInviteOnly = true
    · rw [if_pos honly, if_pos ⟨hroles, honly⟩]
      cases req.inviteCode with
      | none => rfl
      | some code =>
          dsimp only
          unfold validateAndUseInvite
          rw [Prog.run_bind_of_ok (run_fetch _ s), Prog.run_bind', Prog.run_ofExcept]
          cases checkInvite env.inviteNow (s.db.invites.find? code) with
          | error e => rfl
          | ok _ => rfl
    · rw [if_neg honly, if_neg fun h => honly h.2]
      rfl
  · rw [if_neg hroles, if_neg fun h => hroles h.1]
    rfl

theorem run_challengeGate_fst :
    ((challengeGate env req).run s).1 = s.db.challengeCheck env req := by
  unfold challengeGate Db.challengeCheck
  rw [Prog.run_bind_of_ok (run_fetch _ s), Prog.when]
  by_cases hmode : s.db.challengeMode = "off"
  · rw [if_neg (not_not.mpr hmode), if_pos hmode]
    rfl
  · rw [if_pos hmode, if_neg hmode]
    cases req.challengeToken with
    | none => rfl
    | some token =>
        dsimp only
        rw [Prog.run_bind_of_ok (run_fetch _ s), Prog.run_bind', Prog.run_ofExcept]
        cases checkChallengeToken env.now req.publicKey (s.db.challengeTokens.find? token) with
        | error e => rfl
        | ok _ => rfl

/-- A user without roles holds none in particular. -/
theorem has_eq_false_of_roleCount {db : Db} {canonical : String}
    (h : db.roleCount canonical = 0) (roleId : String) :
    db.userRoles.has (canonical, roleId) = false := by
  unfold Db.roleCount at h
  rw [List.length_eq_zero_iff, List.filter_eq_nil_iff] at h
  rw [Table.has_eq_false_iff]
  intro row hrow hkey
  exact h row hrow (by simpa using (Prod.mk.inj hkey).1)

/-- Inserting a role a user does not hold only fails for want of the role. -/
theorem insertUserRole_isOk {db : Db} {canonical roleId : String} (now : Int)
    (huser : db.users.has canonical = true) (hfree : db.userRoles.has (canonical, roleId) = false) :
    (∃ db', insertUserRole ⟨canonical, roleId, now⟩ db = .ok db') ↔
      db.roles.has roleId = true := by
  obtain ⟨userRoles, hinsert, -⟩ :
      ∃ userRoles, db.userRoles.insert? ⟨canonical, roleId, now⟩ = some userRoles ∧ _ :=
    Table.insert?_of_free hfree
  rw [insertUserRole, hinsert]
  by_cases hrole : db.roles.has roleId = true
  · simp [huser, hrole]
  · simp [hrole]

theorem rows_of_insertUserRole {db db' : Db} {row : UserRoleRow}
    (h : insertUserRole row db = .ok db') :
    db'.users = db.users ∧ db'.roles = db.roles ∧
      db'.userRoles.rows = db.userRoles.rows ++ [row] := by
  unfold insertUserRole at h
  cases hinsert : db.userRoles.insert? row with
  | none =>
      rw [hinsert] at h
      cases h
  | some userRoles =>
      rw [hinsert] at h
      dsimp only at h
      split_ifs at h
      cases h
      exact ⟨rfl, rfl, (Table.insert?_eq_some_iff.mp hinsert).2⟩

/-- Whoever is made the owner is not thereby given the role of everyone. -/
theorem everyone_free_of_owner {before after : Table UserRoleRow UserRoleRow.key}
    {canonical : String} {now : Int}
    (hrows : after.rows = before.rows ++ [⟨canonical, "builtin-owner", now⟩])
    (hfree : before.has (canonical, "builtin-everyone") = false) :
    after.has (canonical, "builtin-everyone") = false := by
  rw [Bool.eq_false_iff, Ne, Table.has_of_append hrows, hfree]
  simp [UserRoleRow.key]

/-- The second insertion of `assignRoles`. -/
theorem run_insertEveryone {canonical : String} {now : Int}
    (huser : s.db.users.has canonical = true)
    (hfree : s.db.userRoles.has (canonical, "builtin-everyone") = false) :
    ((execute (insertUserRoleOrIgnore ⟨canonical, "builtin-everyone", now⟩)).run s).1.isOk = true ↔
      s.db.roles.has "builtin-everyone" = true := by
  have hinsert : insertUserRoleOrIgnore ⟨canonical, "builtin-everyone", now⟩ s.db =
      insertUserRole ⟨canonical, "builtin-everyone", now⟩ s.db := by
    unfold insertUserRoleOrIgnore
    exact if_neg (by simpa [UserRoleRow.key] using hfree)
  rw [← insertUserRole_isOk now huser hfree]
  cases hrole : insertUserRole ⟨canonical, "builtin-everyone", now⟩ s.db with
  | ok db =>
      rw [run_execute_of_ok (hinsert.trans hrole)]
      simp [Except.isOk, Except.toBool]
  | error e =>
      rw [run_execute_of_error (hinsert.trans hrole)]
      simp [Except.isOk, Except.toBool]

theorem run_assignRoles_isOk {canonical : String} (huser : s.db.users.has canonical = true) :
    ((assignRoles env canonical).run s).1.isOk = true ↔ s.db.RolesAssignable canonical := by
  unfold assignRoles Db.RolesAssignable
  rw [Prog.run_bind_of_ok (run_fetch _ s), Prog.when]
  by_cases hroles : s.db.roleCount canonical = 0
  · rw [if_pos hroles, Prog.run_bind_of_ok (run_fetch _ s)]
    have howner := has_eq_false_of_roleCount hroles "builtin-owner"
    have heveryone := has_eq_false_of_roleCount hroles "builtin-everyone"
    cases hexists : s.db.userRoles.rows.any (·.roleId = "builtin-owner") with
    | true =>
        rw [Prog.when, if_neg (by simp), Prog.run_bind_of_ok (Prog.run_ret _ s),
          run_insertEveryone huser heveryone]
        simp [hroles]
    | false =>
        rw [Prog.when, if_pos rfl]
        cases hinsert : insertUserRole ⟨canonical, "builtin-owner", env.now⟩ s.db with
        | error e =>
            rw [Prog.run_bind_of_error (run_execute_of_error hinsert)]
            have hmissing : ¬ s.db.roles.has "builtin-owner" = true := by
              rw [← insertUserRole_isOk env.now huser howner, hinsert]
              simp
            simp [hroles, hmissing, Except.isOk, Except.toBool]
        | ok db =>
            have hthere : s.db.roles.has "builtin-owner" = true := by
              rw [← insertUserRole_isOk env.now huser howner, hinsert]
              exact ⟨db, rfl⟩
            obtain ⟨husers, hroleRows, hrows⟩ := rows_of_insertUserRole hinsert
            have hstill := everyone_free_of_owner hrows heveryone
            rw [Prog.run_bind_of_ok (run_execute_of_ok hinsert),
              run_insertEveryone (s := s.withDb db) (by simpa [husers] using huser) hstill]
            simp [hroles, hthere, hroleRows]
  · rw [if_neg hroles]
    simp [hroles, Except.isOk, Except.toBool]

/-! ## The second half -/

/-- What the later checks read is left alone by the invite gate. -/
structure InviteFrame (s t : AppState) : Prop where
  users : t.db.users = s.db.users
  roles : t.db.roles = s.db.roles
  userRoles : t.db.userRoles = s.db.userRoles
  hubSettings : t.db.hubSettings = s.db.hubSettings
  challengeTokens : t.db.challengeTokens = s.db.challengeTokens

theorem changes_inviteFrame (canonical : String) :
    (inviteGate env req canonical).Changes InviteFrame := by
  apply changes_inviteGate
  · exact fun s => ⟨rfl, rfl, rfl, rfl, rfl⟩
  · intro a b c hab hbc
    exact ⟨hbc.users.trans hab.users, hbc.roles.trans hab.roles, hbc.userRoles.trans hab.userRoles,
      hbc.hubSettings.trans hab.hubSettings, hbc.challengeTokens.trans hab.challengeTokens⟩
  · exact fun s code => ⟨rfl, rfl, rfl, rfl, rfl⟩

/-- The same for the roles. -/
def RoleFrame (s t : AppState) : Prop :=
  t.db.hubSettings = s.db.hubSettings ∧ t.db.challengeTokens = s.db.challengeTokens

theorem roleFrame_insertUserRole {row : UserRoleRow} {db : Db}
    (h : insertUserRole row s.db = .ok db) : RoleFrame s (s.withDb db) := by
  unfold insertUserRole at h
  split at h
  · cases h
  · split_ifs at h
    cases h
    exact ⟨rfl, rfl⟩

theorem changes_roleFrame (canonical : String) :
    (assignRoles env canonical).Changes RoleFrame := by
  apply changes_assignRoles
  · exact fun s => ⟨rfl, rfl⟩
  · exact fun a b c hab hbc => ⟨hbc.1.trans hab.1, hbc.2.trans hab.2⟩
  · exact fun s row db => roleFrame_insertUserRole

theorem challengeCheck_congr (hsettings : t.db.hubSettings = s.db.hubSettings)
    (htokens : t.db.challengeTokens = s.db.challengeTokens) :
    t.db.challengeCheck env req = s.db.challengeCheck env req := by
  rw [Db.challengeCheck, Db.challengeCheck, Db.challengeMode, Db.challengeMode, Db.setting,
    Db.setting, hsettings, htokens]

theorem rolesAssignable_congr (hroles : t.db.roles = s.db.roles)
    (huserRoles : t.db.userRoles = s.db.userRoles) (canonical : String) :
    t.db.RolesAssignable canonical ↔ s.db.RolesAssignable canonical := by
  rw [Db.RolesAssignable, Db.RolesAssignable, Db.roleCount, Db.roleCount, hroles, huserRoles]

/-- The last stages succeed exactly if each of their checks does. -/
theorem run_late_isOk {canonical : String} {minLevel : ℕ}
    (huser : s.db.users.has canonical = true) :
    ((do
      inviteGate env req canonical
      assignRoles env canonical
      challengeGate env req
      let scope ← sessionScope canonical minLevel
      pure ⟨env.token, scope⟩ : Handler VerifyResponse).run s).1.isOk = true ↔
    s.db.inviteCheck env req canonical = .ok () ∧ s.db.RolesAssignable canonical ∧
      s.db.challengeCheck env req = .ok () := by
  have hinvite : ((inviteGate env req canonical).run s).1 = _ := run_inviteGate_fst canonical
  have hframe : InviteFrame s ((inviteGate env req canonical).run s).2 :=
    changes_inviteFrame canonical s
  rw [Prog.run_bind']
  rcases hrun : (inviteGate env req canonical).run s with ⟨e | _, t⟩
  · rw [hrun] at hinvite
    simp [← hinvite, Except.isOk, Except.toBool]
  · rw [hrun] at hinvite hframe
    have hroles : ((assignRoles env canonical).run t).1.isOk = true ↔ _ :=
      run_assignRoles_isOk (by rw [hframe.users]; exact huser)
    have hroleFrame : RoleFrame t ((assignRoles env canonical).run t).2 :=
      changes_roleFrame canonical t
    rw [rolesAssignable_congr hframe.roles hframe.userRoles] at hroles
    dsimp only
    rw [Prog.run_bind', ← hinvite, ← hroles]
    rcases hrun' : (assignRoles env canonical).run t with ⟨e | _, u⟩
    · simp [Except.isOk, Except.toBool]
    · rw [hrun'] at hroleFrame
      have hchallenge : ((challengeGate env req).run u).1 = _ := run_challengeGate_fst
      rw [challengeCheck_congr (hroleFrame.1.trans hframe.hubSettings)
        (hroleFrame.2.trans hframe.challengeTokens)] at hchallenge
      dsimp only
      rw [Prog.run_bind', ← hchallenge]
      rcases (challengeGate env req).run u with ⟨e | _, v⟩
      · simp [Except.isOk, Except.toBool]
      · simp [Except.isOk, Except.toBool, sessionScope, Prog.run_bind']

/-- With a fresh token the session is always written. -/
theorem run_completeLogin (req : VerifyRequest)
    (hfresh : ∀ row ∈ s.db.sessions.rows, row.token ≠ env.token)
    (canonical : String) (master : Option String) (minLevel : ℕ) :
    ∃ sessions, sessions.rows = s.db.sessions.rows ++ [⟨env.token, canonical, env.now⟩] ∧
      (completeLogin env req canonical master minLevel).run s = (do
        inviteGate env req canonical
        assignRoles env canonical
        challengeGate env req
        let scope ← sessionScope canonical minLevel
        pure ⟨env.token, scope⟩ : Handler VerifyResponse).run
          (s.withDb ((upsertUser canonical env.now s.db.newMemberStatus master s.db).withSessions
            sessions)) := by
  obtain ⟨sessions, hinsert, hrows⟩ :
      ∃ sessions, s.db.sessions.insert? ⟨env.token, canonical, env.now⟩ = some sessions ∧ _ :=
    Table.insert?_of_free (Table.has_eq_false_iff.mpr hfresh)
  refine ⟨sessions, hrows, ?_⟩
  have henroll : (enroll env canonical master).run s = _ := run_enroll canonical master
  rw [hinsert] at henroll
  exact Prog.run_bind_of_ok henroll

/-- The second half succeeds exactly if the last checks do, and leaves a session
behind in any case. -/
theorem completeLogin_outcome (req : VerifyRequest)
    (hfresh : ∀ row ∈ s.db.sessions.rows, row.token ≠ env.token)
    (canonical : String) (master : Option String) (minLevel : ℕ) :
    (((completeLogin env req canonical master minLevel).run s).1.isOk = true ↔
      s.db.inviteCheck env req canonical = .ok () ∧ s.db.RolesAssignable canonical ∧
        s.db.challengeCheck env req = .ok ()) ∧
    ⟨env.token, canonical, env.now⟩ ∈
      ((completeLogin env req canonical master minLevel).run s).2.db.sessions.rows := by
  obtain ⟨sessions, hrows, hrun⟩ := run_completeLogin req hfresh canonical master minLevel
  rw [hrun]
  have hmember := find?_upsertUser canonical env.now s.db.newMemberStatus master s.db canonical
  rw [if_pos rfl] at hmember
  constructor
  · exact run_late_isOk (Table.has_of_find? hmember)
  · have hlate := changes_late env req canonical minLevel
      (s.withDb ((upsertUser canonical env.now s.db.newMemberStatus master s.db).withSessions
        sessions))
    rw [hlate.sessions]
    change _ ∈ sessions.rows
    rw [hrows]
    exact List.mem_append_right _ (List.mem_singleton_self _)

/-! ## Bot registration -/

/-- The commands before the first one whose name has been seen. -/
def beforeRepeat : List String → List BotCommandDef → List BotCommandDef
  | _, [] => []
  | seen, cmd :: rest =>
      if cmd.name ∈ seen then [] else cmd :: beforeRepeat (cmd.name :: seen) rest

theorem beforeRepeat_eq_self_iff (seen : List String) (cmds : List BotCommandDef) :
    beforeRepeat seen cmds = cmds ↔
      (∀ cmd ∈ cmds, cmd.name ∉ seen) ∧ (cmds.map (·.name)).Nodup := by
  induction cmds generalizing seen with
  | nil => simp [beforeRepeat]
  | cons cmd rest ih =>
      unfold beforeRepeat
      by_cases hseen : cmd.name ∈ seen
      · simp [hseen]
      · rw [if_neg hseen, List.cons.injEq, and_iff_right rfl, ih]
        simp only [List.mem_cons, not_or, forall_eq_or_imp, hseen, not_false_eq_true, true_and,
          List.map_cons, List.nodup_cons, List.mem_map, not_exists, not_and]
        constructor
        · intro h
          exact ⟨fun other hother => (h.1 other hother).2, fun other hother hname =>
            (h.1 other hother).1 hname, h.2⟩
        · intro h
          exact ⟨fun other hother => ⟨fun hname => h.2.1 other hother hname, h.1 other hother⟩,
            h.2.2⟩

/-- Replace the bot commands. -/
def Db.withBotCommands (db : Db) (botCommands : Table BotCommandRow BotCommandRow.key) : Db :=
  { db with botCommands := botCommands }

/-- The loop over a bot's commands stores those before the first repeated name,
and fails if there is one. -/
theorem run_insertCommands (canonical : String) (cmds : List BotCommandDef) (seen : List String)
    (s : AppState)
    (hseen : ∀ name, s.db.botCommands.has (canonical, name) = true ↔ name ∈ seen) :
    ∃ botCommands result,
      (Prog.each cmds fun cmd => execute (insertBotCommand (cmd.row canonical))).run s =
        (result, s.withDb (s.db.withBotCommands botCommands)) ∧
      (result.isOk = true ↔ beforeRepeat seen cmds = cmds) ∧
      botCommands.rows = s.db.botCommands.rows ++
        (beforeRepeat seen cmds).map (·.row canonical) := by
  induction cmds generalizing s seen with
  | nil =>
      refine ⟨s.db.botCommands, .ok (), rfl, ?_, ?_⟩ <;>
        simp [beforeRepeat, Except.isOk, Except.toBool]
  | cons cmd rest ih =>
      rw [Prog.run_each_cons]
      unfold beforeRepeat
      by_cases hname : cmd.name ∈ seen
      · -- The name is taken: the insertion fails and the loop ends here.
        obtain ⟨old, hold, hkey⟩ := Table.has_iff.mp ((hseen cmd.name).mpr hname)
        have hinsert : insertBotCommand (cmd.row canonical) s.db =
            .error (.primaryKey "bot_commands.pubkey, bot_commands.name") := by
          unfold insertBotCommand
          have hnone : s.db.botCommands.insert? (cmd.row canonical) = none :=
            Table.insert?_eq_none_iff.mpr ⟨old, hold, hkey⟩
          rw [hnone]
        rw [if_pos hname, Prog.run_bind_of_error (run_execute_of_error hinsert)]
        refine ⟨s.db.botCommands, _, rfl, ?_, by simp⟩
        simp [Except.isOk, Except.toBool]
      · have hfree : s.db.botCommands.has (cmd.row canonical).key = false := by
          rw [Bool.eq_false_iff]
          exact fun hhas => hname ((hseen cmd.name).mp hhas)
        obtain ⟨stored, hstored, hrows⟩ := Table.insert?_of_free hfree
        have hinsert : insertBotCommand (cmd.row canonical) s.db =
            .ok (s.db.withBotCommands stored) := by
          unfold insertBotCommand
          rw [hstored]
          rfl
        have hseen' : ∀ name, stored.has (canonical, name) = true ↔ name ∈ cmd.name :: seen := by
          intro name
          have hkey : (cmd.row canonical).key = (canonical, name) ↔ name = cmd.name :=
            ⟨fun h => (Prod.mk.inj h).2.symm, fun h => h ▸ rfl⟩
          rw [List.mem_cons, ← hseen name, Table.has_of_append hrows, or_comm, hkey]
        obtain ⟨botCommands, result, hrun, hok, hall⟩ :=
          ih (cmd.name :: seen) (s.withDb (s.db.withBotCommands stored)) hseen'
        rw [if_neg hname, Prog.run_bind_of_ok (run_execute_of_ok hinsert), hrun]
        refine ⟨botCommands, result, rfl, ?_, ?_⟩
        · rw [hok, List.cons.injEq, and_iff_right rfl]
        · rw [hall]
          change stored.rows ++ _ = _
          rw [hrows]
          simp

/-- The names of a bot's commands are pairwise distinct. -/
def BotMeta.NamesDistinct (botMeta : BotMeta) : Prop :=
  ((botMeta.commands.getD []).map (·.name)).Nodup

/-- The stored commands of the bot are those that registering would store. -/
def Db.CommandsStored (db : Db) (canonical : String) (botMeta : BotMeta) : Prop :=
  ∀ cmds ∈ botMeta.commands, ∀ row : BotCommandRow, row.pubkey = canonical →
    (row ∈ db.botCommands.rows ↔ row ∈ (beforeRepeat [] cmds).map (·.row canonical))

/-- Storing a bot's description changes no row: the profile and the commands are
there already, and so is the approval if registering gets that far. -/
structure RegistrationInert (lib : Crates) (env : LoginEnv) (db : Db) (canonical : String)
    (botMeta : BotMeta) : Prop where
  profile : botMeta.profile lib canonical env.metaNow ∈ db.botProfiles.rows
  commands : db.CommandsStored canonical botMeta
  status : botMeta.NamesDistinct → db.botStatus canonical = some .approved

/-- Deleting a bot's commands and storing others changes nothing exactly if they
are the same. -/
theorem sameRows_replaceCommands {botCommands stored : Table BotCommandRow BotCommandRow.key}
    {canonical : String} {cmds : List BotCommandDef}
    (hrows : stored.rows = (botCommands.keep (·.pubkey ≠ canonical)).rows ++
      cmds.map (·.row canonical)) :
    stored.SameRows botCommands ↔ ∀ row : BotCommandRow, row.pubkey = canonical →
      (row ∈ botCommands.rows ↔ row ∈ cmds.map (·.row canonical)) := by
  have hmem : ∀ row, row ∈ stored.rows ↔
      row ∈ botCommands.rows ∧ row.pubkey ≠ canonical ∨ row ∈ cmds.map (·.row canonical) := by
    intro row
    rw [hrows, List.mem_append, Table.rows_keep, List.mem_filter, decide_eq_true_eq]
  have hown : ∀ row ∈ cmds.map (·.row canonical), row.pubkey = canonical := by
    intro row hrow
    obtain ⟨cmd, -, rfl⟩ := List.mem_map.mp hrow
    rfl
  constructor
  · intro hsame row hkey
    rw [← hsame row, hmem row]
    exact ⟨fun h => h.resolve_left fun hother => hother.2 hkey, .inr⟩
  · intro hsame row
    rw [hmem row]
    by_cases hkey : row.pubkey = canonical
    · rw [hsame row hkey]
      exact ⟨fun h => h.resolve_left fun hother => hother.2 hkey, .inr⟩
    · constructor
      · exact fun h => h.elim And.left fun hrow => absurd (hown row hrow) hkey
      · exact fun hrow => .inl ⟨hrow, hkey⟩

/-- The stored description, before the approval. -/
def Db.described (db : Db) (profile : BotProfileRow)
    (botCommands : Table BotCommandRow BotCommandRow.key) : Db :=
  (upsertBotProfile profile db).withBotCommands botCommands

theorem publicKey_approved (row : UserRow) :
    { row with approvalStatus := .approved : UserRow }.publicKey = row.publicKey := rfl

/-- Approve a bot. -/
def approveUser (canonical : String) (db : Db) : Db :=
  updateUser canonical (fun row => { row with approvalStatus := .approved }) publicKey_approved db

theorem run_registerBot (lib : Crates) (env : LoginEnv) (canonical : String) (botMeta : BotMeta)
    (s : AppState) :
    ∃ botCommands, (botCommands.SameRows s.db.botCommands ↔ s.db.CommandsStored canonical botMeta) ∧
      let described := s.db.described (botMeta.profile lib canonical env.metaNow) botCommands
      (botMeta.NamesDistinct ∧
          (registerBot lib env canonical botMeta).run s =
            (.ok (), s.withDb (approveUser canonical described)) ∨
        ¬ botMeta.NamesDistinct ∧
          ∃ e, (registerBot lib env canonical botMeta).run s = (.error e, s.withDb described)) := by
  unfold registerBot
  rw [Prog.run_bind_of_ok (run_write _ s)]
  unfold BotMeta.NamesDistinct Db.CommandsStored
  cases botMeta.commands with
  | none =>
      refine ⟨s.db.botCommands, ⟨fun _ => nofun, fun _ => .refl _⟩, .inl ⟨List.nodup_nil, rfl⟩⟩
  | some cmds =>
      have hseen : ∀ name, (deleteBotCommands canonical (upsertBotProfile
          (botMeta.profile lib canonical env.metaNow) s.db)).botCommands.has
          (canonical, name) = true ↔
          name ∈ ([] : List String) := by
        intro name
        simp only [List.not_mem_nil, iff_false, Bool.not_eq_true]
        rw [Table.has_eq_false_iff]
        intro row hrow hkey
        simp only [deleteBotCommands, Table.rows_keep, List.mem_filter, decide_eq_true_eq] at hrow
        exact hrow.2 (Prod.mk.inj hkey).1
      obtain ⟨botCommands, result, hrun, hok, hrows⟩ := run_insertCommands canonical cmds []
        (s.withDb (deleteBotCommands canonical (upsertBotProfile
          (botMeta.profile lib canonical env.metaNow) s.db))) hseen
      have hwrite : (Prog.whenSome (some cmds) fun cmds => do
          write (deleteBotCommands canonical)
          Prog.each cmds fun cmd => execute (insertBotCommand (cmd.row canonical)) :
          Handler Unit).run (s.withDb (upsertBotProfile
            (botMeta.profile lib canonical env.metaNow) s.db)) =
          (result, s.withDb (s.db.described (botMeta.profile lib canonical env.metaNow)
            botCommands)) := hrun
      rw [beforeRepeat_eq_self_iff] at hok
      refine ⟨botCommands, ?_, ?_⟩
      · have hkept : botCommands.rows = (s.db.botCommands.keep (·.pubkey ≠ canonical)).rows ++
            (beforeRepeat [] cmds).map (·.row canonical) := hrows
        rw [sameRows_replaceCommands hkept]
        simp
      · rw [Prog.run_bind', hwrite]
        cases result with
        | ok _ =>
            left
            exact ⟨(hok.mp rfl).2, rfl⟩
        | error e =>
            right
            refine ⟨fun hdistinct => ?_, e, rfl⟩
            have hcontra := hok.mpr ⟨fun _ _ => List.not_mem_nil, hdistinct⟩
            cases hcontra

/-! ## The bot gate -/

/-- The bot gate lets the request pass: it is no bot's, or the bot is invited and
repeats no command name. -/
def BotPasses (req : VerifyRequest) (db : Db) (canonical : String) : Prop :=
  req.isBot = some true →
    (db.botStatus canonical = some .botPending ∨ db.botStatus canonical = some .approved) ∧
      ∀ botMeta ∈ req.botMeta, botMeta.NamesDistinct

/-- The bot gate changes no row. -/
def BotTraceless (lib : Crates) (env : LoginEnv) (req : VerifyRequest) (db : Db)
    (canonical : String) : Prop :=
  req.isBot = some true →
    db.botStatus canonical = some .botPending ∨ db.botStatus canonical = some .approved →
      ∀ botMeta ∈ req.botMeta, RegistrationInert lib env db canonical botMeta

/-- The flag that the bot gate sets is set already. -/
theorem updateUser_isBot {db : Db} {canonical : String} {status : ApprovalStatus}
    (h : db.botStatus canonical = some status) :
    updateUser canonical (fun row => { row with isBot := true }) (fun _ => rfl) db = db := by
  unfold Db.botStatus at h
  rw [Option.map_eq_some_iff] at h
  obtain ⟨bot, hbot, -⟩ := h
  rw [Option.filter_eq_some_iff] at hbot
  have husers : db.users.update (·.publicKey = canonical) (fun row => { row with isBot := true })
      (fun _ => rfl) = db.users := by
    apply Table.update_eq_self
    intro row hrow hkey
    have hsame : row = bot := by
      apply db.users.eq_of_key_eq hrow (Table.find?_eq_some_iff.mp hbot.1).1
      rw [(Table.find?_eq_some_iff.mp hbot.1).2]
      simpa using hkey
    rw [hsame, ← hbot.2]
  unfold updateUser
  rw [husers]

/-- Approving a bot changes nothing exactly if it is approved. -/
theorem sameRows_approveUser {db : Db} {canonical : String} {status : ApprovalStatus}
    (h : db.botStatus canonical = some status) :
    (approveUser canonical db).users.SameRows db.users ↔
      db.botStatus canonical = some .approved := by
  have hstatus := h
  unfold Db.botStatus at h
  rw [Option.map_eq_some_iff] at h
  obtain ⟨bot, hbot, rfl⟩ := h
  rw [Option.filter_eq_some_iff] at hbot
  obtain ⟨hmem, hkey⟩ := Table.find?_eq_some_iff.mp hbot.1
  rw [hstatus, Option.some.injEq]
  unfold approveUser updateUser
  rw [Table.update_sameRows_iff]
  constructor
  · intro hsame
    rw [← hsame bot hmem (by simpa using hkey)]
  · intro happroved row hrow hrowKey
    have hsame : row = bot := by
      apply db.users.eq_of_key_eq hrow hmem
      rw [hkey]
      simpa using hrowKey
    rw [hsame, ← happroved]

/-- The profile of a bot is rewritten to itself exactly if it is stored. -/
theorem sameRows_upsertBotProfile {db : Db} {profile : BotProfileRow} :
    (upsertBotProfile profile db).botProfiles.SameRows db.botProfiles ↔
      profile ∈ db.botProfiles.rows := by
  unfold upsertBotProfile
  rw [Table.upsert_sameRows_iff]
  constructor
  · rintro ⟨old, hold, hsame⟩
    obtain ⟨hmem, hkey⟩ := Table.find?_eq_some_iff.mp hold
    rw [hkey] at hsame
    have hprofile : profile = old := hsame
    rw [hprofile]
    exact hmem
  · intro hmem
    exact ⟨profile, Table.find?_eq_some_iff.mpr ⟨hmem, rfl⟩, rfl⟩

/-- Registering a bot changes the rows of three tables. -/
theorem sameTables_of_bot {db : Db} (husers : db.users.SameRows s.db.users)
    (hprofiles : db.botProfiles.SameRows s.db.botProfiles)
    (hcommands : db.botCommands.SameRows s.db.botCommands) (hframe : BotFrame s (s.withDb db)) :
    SameTables s.db db where
  users := husers
  sessions := by
    have hsame : db.sessions = s.db.sessions := hframe.sessions
    rw [hsame]
    exact .refl _
  userRoles := by
    have hsame : db.userRoles = s.db.userRoles := hframe.userRoles
    rw [hsame]
    exact .refl _
  invites := by
    have hsame : db.invites = s.db.invites := hframe.invites
    rw [hsame]
    exact .refl _
  botProfiles := hprofiles
  botCommands := hcommands
  challengeTokens := by
    have hsame : db.challengeTokens = s.db.challengeTokens := hframe.challengeTokens
    rw [hsame]
    exact .refl _

theorem registerBot_outcome {canonical : String} {status : ApprovalStatus}
    (hstatus : s.db.botStatus canonical = some status) (botMeta : BotMeta) :
    (((registerBot lib env canonical botMeta).run s).1.isOk = true ↔ botMeta.NamesDistinct) ∧
    (SameTables s.db ((registerBot lib env canonical botMeta).run s).2.db ↔
      RegistrationInert lib env s.db canonical botMeta) := by
  have hframe : BotFrame s ((registerBot lib env canonical botMeta).run s).2 :=
    changes_registerBot canonical botMeta s
  obtain ⟨botCommands, hcommands, ⟨hdistinct, hrun⟩ | ⟨hrepeated, e, hrun⟩⟩ :=
    run_registerBot lib env canonical botMeta s
  · rw [hrun] at hframe ⊢
    refine ⟨iff_of_true rfl hdistinct, ?_, ?_⟩
    · intro hsame
      exact ⟨sameRows_upsertBotProfile.mp hsame.botProfiles, hcommands.mp hsame.botCommands,
        fun _ => (sameRows_approveUser hstatus).mp hsame.users⟩
    · intro hinert
      exact sameTables_of_bot ((sameRows_approveUser hstatus).mpr (hinert.status hdistinct))
        (sameRows_upsertBotProfile.mpr hinert.profile) (hcommands.mpr hinert.commands) hframe
  · rw [hrun] at hframe ⊢
    refine ⟨iff_of_false (by simp [Except.isOk, Except.toBool]) hrepeated, ?_, ?_⟩
    · intro hsame
      exact ⟨sameRows_upsertBotProfile.mp hsame.botProfiles, hcommands.mp hsame.botCommands,
        fun hdistinct => absurd hdistinct hrepeated⟩
    · intro hinert
      exact sameTables_of_bot (.refl _) (sameRows_upsertBotProfile.mpr hinert.profile)
        (hcommands.mpr hinert.commands) hframe

theorem botGate_outcome (lib : Crates) (env : LoginEnv) (req : VerifyRequest) (s : AppState)
    (canonical : String) :
    (((botGate lib env req canonical).run s).1.isOk = true ↔ BotPasses req s.db canonical) ∧
    (SameTables s.db ((botGate lib env req canonical).run s).2.db ↔
      BotTraceless lib env req s.db canonical) := by
  unfold botGate BotPasses BotTraceless
  by_cases hbot : req.isBot = some true
  · simp only [Prog.when, hbot, if_true, forall_const]
    rw [Prog.run_bind_of_ok (run_fetch _ s)]
    by_cases hwelcome : s.db.botStatus canonical = some .botPending ∨
        s.db.botStatus canonical = some .approved
    · obtain ⟨status, hstatus⟩ : ∃ status, s.db.botStatus canonical = some status :=
        hwelcome.elim (fun h => ⟨_, h⟩) fun h => ⟨_, h⟩
      rw [Prog.run_bind_of_ok (Prog.run_ensure_of_pos hwelcome _ s),
        Prog.run_bind_of_ok (run_write _ s), updateUser_isBot hstatus, withDb_self]
      simp only [hwelcome, true_and, true_implies]
      cases req.botMeta with
      | none => exact ⟨by simp [Prog.whenSome, Except.isOk, Except.toBool],
          iff_of_true (SameTables.refl s.db) fun _ h => absurd h (Option.not_mem_none _)⟩
      | some botMeta =>
          simpa [Prog.whenSome] using registerBot_outcome hstatus botMeta
    · rw [Prog.run_bind_of_error (Prog.run_ensure_of_neg hwelcome _ s)]
      exact ⟨iff_of_false (by simp [Except.isOk, Except.toBool]) fun h => hwelcome h.1,
        iff_of_true (SameTables.refl s.db) fun h => absurd h hwelcome⟩
  · rw [Prog.when, if_neg hbot]
    exact ⟨iff_of_true rfl fun h => absurd h hbot,
      iff_of_true (SameTables.refl s.db) fun h => absurd h hbot⟩

/-! ## Refused logins -/

/-- The challenge and the certificate are accepted. -/
def Identified (lib : Crates) (env : LoginEnv) (req : VerifyRequest) (s : AppState) : Prop :=
  challengeAnswer lib env req (s.pendingChallenges req.publicKey) = .ok () ∧
    checkCert lib.ed25519 req.publicKey req.subkeyCert = .ok ()

/-- The identity that a request resolves to. -/
def canonicalKey (req : VerifyRequest) (db : Db) : String :=
  (db.canonical req.publicKey req.subkeyCert).1

/-- The request gets as far as the member row: it is identified, and the bot gate
and the admission gates let it pass. -/
def ReachesEnrolment (lib : Crates) (env : LoginEnv) (req : VerifyRequest) (s : AppState) : Prop :=
  Identified lib env req s ∧ BotPasses req s.db (canonicalKey req s.db) ∧
    ∃ minLevel, s.db.admission lib env req (canonicalKey req s.db) = .ok minLevel

/-- The request is refused after the member row and the session were written. -/
def LateRefusal (lib : Crates) (env : LoginEnv) (req : VerifyRequest) (s : AppState) : Prop :=
  ReachesEnrolment lib env req s ∧
    ¬ (s.db.inviteCheck env req (canonicalKey req s.db) = .ok () ∧
      s.db.RolesAssignable (canonicalKey req s.db) ∧ s.db.challengeCheck env req = .ok ())

/-- The request is refused after a bot's description was stored, and the
description was news. -/
def LostRegistration (lib : Crates) (env : LoginEnv) (req : VerifyRequest) (s : AppState) : Prop :=
  Identified lib env req s ∧ ¬ BotTraceless lib env req s.db (canonicalKey req s.db) ∧
    ¬ ReachesEnrolment lib env req s

theorem checkLogin_of_not_identified (h : ¬ Identified lib env req s) :
    ∃ e, (checkLogin lib env req).run s = (.error e, s.setChallenge req.publicKey none) := by
  unfold checkLogin
  rw [Prog.run_bind', run_answerChallenge]
  cases hchallenge : challengeAnswer lib env req (s.pendingChallenges req.publicKey) with
  | error e => exact ⟨e, rfl⟩
  | ok _ =>
      dsimp only
      rw [Prog.run_bind', run_resolveCanonicalIdentity]
      cases hcert : checkCert lib.ed25519 req.publicKey req.subkeyCert with
      | error e => exact ⟨e, rfl⟩
      | ok _ => exact absurd ⟨hchallenge, hcert⟩ h

/-- An identified request leaves what the bot gate leaves, and passes the first
half exactly if it reaches the member row. -/
theorem checkLogin_of_identified (h : Identified lib env req s) :
    ((checkLogin lib env req).run s).2 =
      ((botGate lib env req (canonicalKey req s.db)).run (s.setChallenge req.publicKey none)).2 ∧
    (((checkLogin lib env req).run s).1.isOk = true ↔ ReachesEnrolment lib env req s) := by
  have hbot : ((botGate lib env req (canonicalKey req s.db)).run
      (s.setChallenge req.publicKey none)).1.isOk = true ↔
        BotPasses req s.db (canonicalKey req s.db) := (botGate_outcome lib env req _ _).1
  have hframe : BotFrame _ ((botGate lib env req (canonicalKey req s.db)).run
      (s.setChallenge req.publicKey none)).2 := changes_botGate _ _
  unfold checkLogin ReachesEnrolment
  rw [Prog.run_bind', run_answerChallenge, h.1]
  dsimp only
  rw [Prog.run_bind', run_resolveCanonicalIdentity, h.2, Except.map]
  change ((botGate lib env req (canonicalKey req s.db) >>= _ : Handler _).run _).2 = _ ∧
    (((botGate lib env req (canonicalKey req s.db) >>= _ : Handler _).run _).1.isOk = true ↔ _)
  rw [Prog.run_bind', ← hbot]
  rcases hrun : (botGate lib env req (canonicalKey req s.db)).run
    (s.setChallenge req.publicKey none) with ⟨e | _, t⟩
  · exact ⟨rfl, iff_of_false (by simp [Except.isOk, Except.toBool])
      fun hreaches => by simp [Except.isOk, Except.toBool] at hreaches⟩
  · rw [hrun] at hframe
    have hadmission : t.db.admission lib env req
        ((s.setChallenge req.publicKey none).db.canonical req.publicKey req.subkeyCert).1 =
          s.db.admission lib env req (canonicalKey req s.db) := hframe.admission _
    dsimp only
    rw [Prog.run_bind', run_admissionGates, hadmission]
    cases s.db.admission lib env req (canonicalKey req s.db) with
    | error e => exact ⟨rfl, by simp [Except.isOk, Except.toBool]⟩
    | ok minLevel => exact ⟨rfl, iff_of_true rfl ⟨h, rfl, minLevel, rfl⟩⟩

/-- The first half passes only requests that reach the member row. -/
theorem reachesEnrolment_of_checkLogin {result : String × Option String × ℕ}
    (h : (checkLogin lib env req).run s = (.ok result, t)) : ReachesEnrolment lib env req s := by
  by_cases hidentified : Identified lib env req s
  · apply (checkLogin_of_identified hidentified).2.mp
    rw [h]
    rfl
  · obtain ⟨e, hfail⟩ := checkLogin_of_not_identified hidentified
    rw [h] at hfail
    cases hfail

/-- Only a request that reaches the member row can succeed. -/
theorem reachesEnrolment_of_isOk (h : ((verify lib env req).run s).1.isOk = true) :
    ReachesEnrolment lib env req s := by
  rcases run_verify_cases lib env req s with ⟨e, t, -, hrun⟩ | ⟨_, _, _, t, hcheck, -⟩
  · rw [hrun] at h
    cases h
  · exact reachesEnrolment_of_checkLogin hcheck

theorem BotFrame.inviteCheck (h : BotFrame s t) (canonical : String) :
    t.db.inviteCheck env req canonical = s.db.inviteCheck env req canonical := by
  rw [Db.inviteCheck, Db.inviteCheck, Db.roleCount, Db.roleCount, Db.isInviteOnly, Db.isInviteOnly,
    h.setting, h.userRoles, h.invites]

/-- Rows that a refused login adds are no longer the rows before it. -/
theorem not_sameTables_of_session {row : SessionRow} (hnew : row ∈ t.db.sessions.rows)
    (hold : row ∉ s.db.sessions.rows) : ¬ SameTables s.db t.db :=
  fun h => hold ((h.sessions row).mp hnew)

/-- A request that reaches the member row goes through the second half from a
state that the bot gate leaves. -/
theorem run_verify_of_reachesEnrolment (h : ReachesEnrolment lib env req s) :
    ∃ master minLevel t, BotFrame (s.setChallenge req.publicKey none) t ∧
      (verify lib env req).run s =
        (completeLogin env req (canonicalKey req s.db) master minLevel).run t := by
  have hpassed := (checkLogin_of_identified h.1).2.mpr h
  have hframe : BotFrame (s.setChallenge req.publicKey none) ((checkLogin lib env req).run s).2 :=
    botFrame_checkLogin
  rcases run_verify_cases lib env req s with
    ⟨e, t, hcheck, -⟩ | ⟨canonical, master, minLevel, t, hcheck, hrun⟩
  · rw [hcheck] at hpassed
    cases hpassed
  · rw [hcheck] at hframe
    obtain ⟨-, -, hcanonical, -, -⟩ := checkLogin_ok hcheck
    have hkey : canonicalKey req s.db = canonical := by rw [canonicalKey, hcanonical]
    rw [hkey]
    exact ⟨master, minLevel, t, hframe, hrun⟩

/-- A session is opened exactly for a request that reaches the member row with a
fresh token, and for the identity it resolves to. -/
theorem newSession_iff {row : SessionRow} (hnew : row ∉ s.db.sessions.rows) :
    row ∈ ((verify lib env req).run s).2.db.sessions.rows ↔
      ReachesEnrolment lib env req s ∧ (∀ old ∈ s.db.sessions.rows, old.token ≠ env.token) ∧
        row = ⟨env.token, canonicalKey req s.db, env.now⟩ := by
  by_cases hreaches : ReachesEnrolment lib env req s
  · obtain ⟨master, minLevel, t, hframe, hrun⟩ := run_verify_of_reachesEnrolment hreaches
    have hsessions : t.db.sessions = s.db.sessions := hframe.sessions
    rw [hrun, and_iff_right hreaches]
    constructor
    · intro hrow
      obtain ⟨-, hsame | ⟨hfresh, hrows⟩, -⟩ :=
        completeLogin_effect env req t (canonicalKey req s.db) master minLevel
      · rw [hsame, hsessions] at hrow
        exact absurd hrow hnew
      · rw [hrows, hsessions, List.mem_append, List.mem_singleton] at hrow
        rw [hsessions] at hfresh
        exact ⟨hfresh, hrow.resolve_left hnew⟩
    · rintro ⟨hfresh, rfl⟩
      exact (completeLogin_outcome req (by rw [hsessions]; exact hfresh) _ master minLevel).2
  · refine iff_of_false (fun hrow => ?_) fun h => hreaches h.1
    rcases run_verify_cases lib env req s with ⟨e, t, hcheck, hrun⟩ | ⟨_, _, _, t, hcheck, -⟩
    · have hframe : BotFrame (s.setChallenge req.publicKey none)
          ((checkLogin lib env req).run s).2 := botFrame_checkLogin
      rw [hcheck] at hframe
      have hsessions : t.db.sessions = s.db.sessions := hframe.sessions
      rw [hrun, hsessions] at hrow
      exact hnew hrow
    · exact hreaches (reachesEnrolment_of_checkLogin hcheck)

/-- A request that reaches the member row: it succeeds exactly if the last checks
do, and leaves a session in any case. -/
theorem verify_of_reachesEnrolment (hfresh : ∀ row ∈ s.db.sessions.rows, row.token ≠ env.token)
    (h : ReachesEnrolment lib env req s) :
    (((verify lib env req).run s).1.isOk = true ↔
      s.db.inviteCheck env req (canonicalKey req s.db) = .ok () ∧
        s.db.RolesAssignable (canonicalKey req s.db) ∧ s.db.challengeCheck env req = .ok ()) ∧
    ¬ SameTables s.db ((verify lib env req).run s).2.db := by
  constructor
  · obtain ⟨master, minLevel, t, hframe, hrun⟩ := run_verify_of_reachesEnrolment h
    have hsessions : t.db.sessions = s.db.sessions := hframe.sessions
    obtain ⟨hok, -⟩ := completeLogin_outcome req (by rw [hsessions]; exact hfresh)
      (canonicalKey req s.db) master minLevel
    rw [hrun, hok, hframe.inviteCheck, rolesAssignable_congr hframe.roles hframe.userRoles,
      challengeCheck_congr hframe.hubSettings hframe.challengeTokens]
    rfl
  · have hnew : (⟨env.token, canonicalKey req s.db, env.now⟩ : SessionRow) ∉ s.db.sessions.rows :=
      fun hold => hfresh _ hold rfl
    exact not_sameTables_of_session ((newSession_iff hnew).mpr ⟨h, hfresh, rfl⟩) hnew

/-- **What a refused login leaves behind.** With a fresh session token, `verify`
is all-or-nothing exactly if the request is not refused after the member row was
written, and is no bot's that is refused after news about it were stored. -/
theorem verify_allOrNothing_iff (lib : Crates) (env : LoginEnv) (req : VerifyRequest)
    (s : AppState) (hfresh : ∀ row ∈ s.db.sessions.rows, row.token ≠ env.token) :
    AllOrNothing lib env req s ↔
      ¬ LateRefusal lib env req s ∧ ¬ LostRegistration lib env req s := by
  unfold AllOrNothing
  by_cases hidentified : Identified lib env req s
  · by_cases hreaches : ReachesEnrolment lib env req s
    · -- The request is refused late or not at all.
      obtain ⟨hok, hchanged⟩ := verify_of_reachesEnrolment hfresh hreaches
      have hlost : ¬ LostRegistration lib env req s := fun h => h.2.2 hreaches
      rw [and_iff_left hlost, LateRefusal, and_iff_right hreaches, not_not, ← hok]
      cases hresult : ((verify lib env req).run s).1 with
      | ok _ => exact iff_of_true nofun rfl
      | error e =>
          exact iff_of_false (fun h => hchanged (h e rfl)) (by simp [Except.isOk, Except.toBool])
    · -- The request is refused in the first half, after the bot gate or by it.
      obtain ⟨hstate, hok⟩ := checkLogin_of_identified hidentified
      have hlate : ¬ LateRefusal lib env req s := fun h => hreaches h.1
      have hbot : SameTables s.db ((botGate lib env req (canonicalKey req s.db)).run
            (s.setChallenge req.publicKey none)).2.db ↔
          BotTraceless lib env req s.db (canonicalKey req s.db) :=
        (botGate_outcome lib env req (s.setChallenge req.publicKey none) _).2
      rw [and_iff_right hlate, LostRegistration, and_iff_right hidentified,
        and_iff_left hreaches, not_not, ← hbot, ← hstate]
      rcases run_verify_cases lib env req s with ⟨e, t, hcheck, hrun⟩ | ⟨_, _, _, t, hcheck, -⟩
      · rw [hrun, hcheck]
        exact ⟨fun h => h e rfl, fun h _ _ => h⟩
      · rw [hcheck] at hok
        exact absurd (hok.mp rfl) hreaches
  · -- Nothing was written.
    have hlate : ¬ LateRefusal lib env req s := fun h => hidentified h.1.1
    have hlost : ¬ LostRegistration lib env req s := fun h => hidentified h.1
    obtain ⟨e, hcheck⟩ := checkLogin_of_not_identified hidentified
    have hrun : (verify lib env req).run s = (.error e, s.setChallenge req.publicKey none) :=
      Prog.run_bind_of_error hcheck
    rw [hrun]
    exact iff_of_true (fun _ _ => SameTables.refl s.db) ⟨hlate, hlost⟩

/-- A hub that has sent a challenge to the laptop. -/
def challengedHub (db : Db) : AppState :=
  AppState.setChallenge { db := db } laptopKey (some ⟨laptopAnswer.message, 60⟩)

def bannedHub : AppState :=
  challengedHub { Db.migrated with
    users := ⟨[⟨laptopKey, 1, 1, .approved, none, false, 0, none, .none, none⟩], by decide⟩
    bans := ⟨[⟨laptopKey, ownerKey, none, 2⟩], by decide⟩ }

/-- A banned member is refused before anything is written. -/
theorem verify_allOrNothing_banned :
    ((verify deviceLib (.fixed 10 1) (.ofRecorded laptopAnswer)).run bannedHub).1 =
        .error ⟨.forbidden, "User is banned"⟩ ∧
      AllOrNothing deviceLib (.fixed 10 1) (.ofRecorded laptopAnswer) bannedHub := by
  obtain ⟨hanswer, hrefused⟩ :
      ((verify deviceLib (.fixed 10 1) (.ofRecorded laptopAnswer)).run bannedHub).1 =
          .error ⟨.forbidden, "User is banned"⟩ ∧
        bannedHub.db.admission deviceLib (.fixed 10 1) (.ofRecorded laptopAnswer)
          (canonicalKey (.ofRecorded laptopAnswer) bannedHub.db) =
            .error ⟨.forbidden, "User is banned"⟩ := by
    decide +kernel
  have hfresh : ∀ row ∈ bannedHub.db.sessions.rows, row.token ≠ (LoginEnv.fixed 10 1).token :=
    fun row hrow => absurd hrow List.not_mem_nil
  refine ⟨hanswer, (verify_allOrNothing_iff _ _ _ _ hfresh).mpr ⟨?_, ?_⟩⟩
  · rintro ⟨⟨-, -, minLevel, hadmitted⟩, -⟩
    rw [hrefused] at hadmitted
    cases hadmitted
  · exact fun hlost => hlost.2.1 fun hbot => absurd hbot (by decide)

def inviteOnlySettings : Table HubSettingRow HubSettingRow.key :=
  ⟨[⟨"invite_only", "true"⟩, ⟨"challenge_mode", "off"⟩], by decide⟩

def inviteOnlyHub : AppState :=
  challengedHub { Db.migrated with hubSettings := inviteOnlySettings }

/-- Refused for want of an invite, and yet logged in. -/
theorem inviteOnlyHub_keeps_session :
    ¬ AllOrNothing deviceLib (.fixed 10 1) (.ofRecorded laptopAnswer) inviteOnlyHub := by
  intro h
  obtain ⟨hrefused, hsession⟩ :
      ((verify deviceLib (.fixed 10 1) (.ofRecorded laptopAnswer)).run inviteOnlyHub).1 =
          .error ⟨.forbidden, "This hub requires an invite code"⟩ ∧
        (⟨hexEncode (.replicate 32 1), laptopKey, 10⟩ : SessionRow) ∈
          ((verify deviceLib (.fixed 10 1) (.ofRecorded laptopAnswer)).run
            inviteOnlyHub).2.db.sessions.rows := by
    decide +kernel
  exact absurd (((h _ hrefused).sessions _).mp hsession) List.not_mem_nil

end Voxply.Hub
