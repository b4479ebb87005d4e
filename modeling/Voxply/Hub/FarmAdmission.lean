/-
# Two ways into a hub

A user without a member row can log in at the hub itself or come with a token of
the farm.  Both ways write a member row and assign the first roles, but only the
login looks at the settings of the hub: approval, invites, proof of work,
certifications and challenge tokens.  The two agree exactly where no such policy
is in force and the key is not revoked.
-/

import Voxply.Hub.Revocation
import Voxply.Hub.VerifyAtomicity

namespace Voxply.Hub

open Voxply.Math Voxply.Identity

variable {lib : Crates} {env : AuthEnv} {login : LoginEnv} {s t : AppState} {db : Db}
  {user : String}

/-! ## The property -/

/-- A login that presents nothing but the answer to the challenge, as a farm token
does. -/
def plainRequest (publicKey challenge signature : String) : VerifyRequest where
  publicKey := publicKey
  challenge := challenge
  signature := signature

/-- The user has the same standing in both stores. -/
structure SameStanding (user : String) (farm native : Db) : Prop where
  status : (farm.users.find? user).map (·.approvalStatus) =
    (native.users.find? user).map (·.approvalStatus)
  roles : ∀ roleId, farm.userRoles.has (user, roleId) = native.userRoles.has (user, roleId)

/-- What the hub lets a farm user in for, it would have let them in for at the
login; and banned or revoked keys get nothing. -/
structure PolicyAgrees (lib : Crates) (env : AuthEnv) (token path : String) (login : LoginEnv)
    (req : VerifyRequest) (user : String) (s : AppState) : Prop where
  admitted : ((authUser lib env (.bearing token path)).run s).1 = .ok user →
    ((verify lib login req).run s).1.isOk = true ∧
      SameStanding user ((authUser lib env (.bearing token path)).run s).2.db
        ((verify lib login req).run s).2.db
  refused : s.db.bans.has user = true ∨ s.db.isRevoked user = true →
    ((authUser lib env (.bearing token path)).run s).2.db.users.has user = false ∧
      ∀ roleId, ((authUser lib env (.bearing token path)).run s).2.db.userRoles.has
        (user, roleId) = false

/-- No gate of the login is in force. -/
structure Db.GatesOpen (db : Db) : Prop where
  securityLevel : db.minSecurityLevel = 0
  powLevel : db.minPowLevel = 0
  certMode : (db.setting "cert_mode").getD "none" = "none"
  inviteOnly : db.isInviteOnly = false
  challengeMode : db.challengeMode = "off"

/-- New members need an approval. -/
def Db.NeedsApproval (db : Db) : Prop :=
  db.setting "require_approval" = some "true" ∧ db.users.rows ≠ []

/-- What the schema and the migrations guarantee: roles and bans are about
members, and the built-in roles exist. -/
structure Db.Consistent (db : Db) : Prop where
  userRoles : ∀ row ∈ db.userRoles.rows, db.users.has row.userPublicKey = true
  bans : ∀ row ∈ db.bans.rows, db.users.has row.targetPublicKey = true
  owner : db.roles.has "builtin-owner" = true
  everyone : db.roles.has "builtin-everyone" = true

theorem Db.Consistent.roleCount (h : db.Consistent) (hnew : db.users.has user = false) :
    db.roleCount user = 0 := by
  unfold Db.roleCount
  rw [List.length_eq_zero_iff, List.filter_eq_nil_iff]
  intro row hrow hkey
  have hmember := h.userRoles row hrow
  rw [decide_eq_true_eq] at hkey
  rw [hkey, hnew] at hmember
  cases hmember

theorem Db.Consistent.not_banned (h : db.Consistent) (hnew : db.users.has user = false) :
    db.bans.has user = false := by
  rw [Table.has_eq_false_iff]
  intro row hrow hkey
  have hmember := h.bans row hrow
  rw [hkey, hnew] at hmember
  cases hmember

/-! ## First roles -/

/-- Replace the role assignments. -/
def Db.withUserRoles (db : Db) (userRoles : Table UserRoleRow UserRoleRow.key) : Db :=
  { db with userRoles := userRoles }

/-- The roles that a new member gets. -/
def Db.firstRoles (db : Db) : List String :=
  if db.userRoles.rows.any (·.roleId = "builtin-owner") then ["builtin-everyone"]
  else ["builtin-owner", "builtin-everyone"]

theorem insertUserRole_of_new {roleId : String} (huser : db.users.has user = true)
    (hrole : db.roles.has roleId = true) (hfree : db.userRoles.has (user, roleId) = false)
    (now : Int) :
    ∃ userRoles, userRoles.rows = db.userRoles.rows ++ [⟨user, roleId, now⟩] ∧
      insertUserRole ⟨user, roleId, now⟩ db = .ok (db.withUserRoles userRoles) := by
  obtain ⟨userRoles, hinsert, hrows⟩ :
      ∃ userRoles, db.userRoles.insert? ⟨user, roleId, now⟩ = some userRoles ∧ _ :=
    Table.insert?_of_free hfree
  refine ⟨userRoles, hrows, ?_⟩
  rw [insertUserRole, hinsert]
  exact if_pos ⟨huser, hrole⟩

theorem insertUserRoleOrIgnore_of_free {row : UserRoleRow}
    (hfree : db.userRoles.has row.key = false) :
    insertUserRoleOrIgnore row db = insertUserRole row db := by
  unfold insertUserRoleOrIgnore
  rw [hfree]
  rfl

/-- Both insertions for a new member succeed. -/
theorem insert_firstRoles (huser : db.users.has user = true) (hnone : db.roleCount user = 0)
    (howner : db.roles.has "builtin-owner" = true)
    (heveryone : db.roles.has "builtin-everyone" = true) (now : Int) :
    ∃ first second, second.rows = db.userRoles.rows ++ db.firstRoles.map (⟨user, ·, now⟩) ∧
      (db.userRoles.rows.any (·.roleId = "builtin-owner") = true ∧ first = db.userRoles ∨
        db.userRoles.rows.any (·.roleId = "builtin-owner") = false ∧
          insertUserRole ⟨user, "builtin-owner", now⟩ db = .ok (db.withUserRoles first)) ∧
      insertUserRoleOrIgnore ⟨user, "builtin-everyone", now⟩ (db.withUserRoles first) =
        .ok (db.withUserRoles second) := by
  have hownerFree := has_eq_false_of_roleCount hnone "builtin-owner"
  have heveryoneFree := has_eq_false_of_roleCount hnone "builtin-everyone"
  unfold Db.firstRoles
  cases hexists : db.userRoles.rows.any (·.roleId = "builtin-owner") with
  | true =>
      obtain ⟨second, hrows, hinsert⟩ := insertUserRole_of_new huser heveryone heveryoneFree now
      refine ⟨db.userRoles, second, hrows, .inl ⟨rfl, rfl⟩, ?_⟩
      rw [← hinsert]
      exact insertUserRoleOrIgnore_of_free heveryoneFree
  | false =>
      obtain ⟨first, hfirst, hinsert⟩ := insertUserRole_of_new huser howner hownerFree now
      have hfree : (db.withUserRoles first).userRoles.has (user, "builtin-everyone") = false :=
        everyone_free_of_owner hfirst heveryoneFree
      have huser' : (db.withUserRoles first).users.has user = true := huser
      obtain ⟨second, hsecond, hinsert'⟩ := insertUserRole_of_new huser' heveryone hfree now
      refine ⟨first, second, ?_, .inr ⟨rfl, hinsert⟩, ?_⟩
      · rw [hsecond]
        change first.rows ++ _ = _
        rw [hfirst]
        simp
      · exact (insertUserRoleOrIgnore_of_free hfree).trans hinsert'

section FirstRoles

variable (huser : s.db.users.has user = true) (hnone : s.db.roleCount user = 0)
  (howner : s.db.roles.has "builtin-owner" = true)
  (heveryone : s.db.roles.has "builtin-everyone" = true)

include huser hnone howner heveryone

/-- The login assigns the first roles. -/
theorem run_assignRoles_new (login : LoginEnv) :
    ∃ userRoles, userRoles.rows =
        s.db.userRoles.rows ++ s.db.firstRoles.map (⟨user, ·, login.now⟩) ∧
      (assignRoles login user).run s = (.ok (), s.withDb (s.db.withUserRoles userRoles)) := by
  obtain ⟨first, second, hrows, hfirst, hsecond⟩ :=
    insert_firstRoles huser hnone howner heveryone login.now
  refine ⟨second, hrows, ?_⟩
  unfold assignRoles
  rw [Prog.run_bind_of_ok (run_fetch _ s), Prog.when, if_pos hnone,
    Prog.run_bind_of_ok (run_fetch _ s)]
  rcases hfirst with ⟨hexists, rfl⟩ | ⟨hexists, hinsert⟩
  · rw [hexists, Prog.when, if_neg (by simp), Prog.run_bind_of_ok (Prog.run_ret _ s)]
    exact run_execute_of_ok hsecond
  · rw [hexists, Prog.when, if_pos rfl, Prog.run_bind_of_ok (run_execute_of_ok hinsert)]
    exact run_execute_of_ok hsecond

/-- So does the extractor. -/
theorem run_assignFarmRoles_new (now : Int) :
    ∃ userRoles, userRoles.rows =
        s.db.userRoles.rows ++ s.db.firstRoles.map (⟨user, ·, now⟩) ∧
      (assignFarmRoles now user).run s = (.ok (), s.withDb (s.db.withUserRoles userRoles)) := by
  obtain ⟨first, second, hrows, hfirst, hsecond⟩ :=
    insert_firstRoles huser hnone howner heveryone now
  refine ⟨second, hrows, ?_⟩
  unfold assignFarmRoles
  rw [Prog.run_bind_of_ok (run_fetch _ s), Prog.when, if_pos hnone,
    Prog.run_bind_of_ok (run_fetch _ s)]
  rcases hfirst with ⟨hexists, rfl⟩ | ⟨hexists, hinsert⟩
  · rw [hexists, Prog.when, if_neg (by simp), Prog.run_bind_of_ok (Prog.run_ret _ s)]
    exact run_writeIgnoring_of_ok hsecond
  · rw [hexists, Prog.when, if_pos rfl, Prog.run_bind_of_ok (run_writeIgnoring_of_ok hinsert)]
    exact run_writeIgnoring_of_ok hsecond

end FirstRoles

/-! ## The extractor -/

/-- Checking a farm token does not touch the store. -/
theorem db_farmIdentity (lib : Crates) (env : AuthEnv) (token : String) :
    (farmIdentity lib env token).Changes fun s t => t.db = s.db := by
  have hrefl : ∀ a : AppState, a.db = a.db := fun _ => rfl
  have htrans : ∀ a b c : AppState, b.db = a.db → c.db = b.db → c.db = a.db :=
    fun _ _ _ hab hbc => hbc.trans hab
  apply Prog.Changes.bind htrans (Prog.changes_query hrefl _)
  intro cached
  cases cached with
  | none => exact Prog.changes_fail hrefl _
  | some farmPubkey =>
      dsimp only
      cases tryVerifyFarmToken lib env.checkNow farmPubkey token with
      | ok sub => exact Prog.changes_ret hrefl sub
      | error firstErr =>
          apply Prog.Changes.bind htrans (Prog.changes_query hrefl _)
          intro _
          apply Prog.Changes.bind htrans (Prog.changes_ensure hrefl)
          intro _
          apply Prog.Changes.bind htrans (Prog.changes_query hrefl _)
          intro _
          apply Prog.Changes.bind htrans (Prog.changes_ensure hrefl)
          intro _
          apply Prog.Changes.bind htrans
          · exact Prog.changes_exec fun _ => rfl
          intro _
          cases env.farmInfo with
          | none => exact Prog.changes_fail hrefl _
          | some newPk =>
              apply Prog.Changes.bind htrans
              · exact Prog.changes_exec fun _ => rfl
              exact fun _ => Prog.changes_ofExcept hrefl _

theorem find?_upsertFarmUser_of_new (hnew : db.users.has user = false) (now : Int) :
    (upsertFarmUser user now db).users.find? user =
      some { publicKey := user, firstSeenAt := now, lastSeenAt := now } := by
  have hnone : db.users.find? user = none :=
    Table.find?_eq_none_iff.mpr (Table.has_eq_false_iff.mp hnew)
  unfold upsertFarmUser
  dsimp only
  rw [Table.find?_upsert, if_pos rfl, hnone]
  rfl

/-- A new farm user is always let in, approved and with the first roles. -/
theorem run_farmAdmission_new (hconsistent : s.db.Consistent) (hnew : s.db.users.has user = false)
    (now : Int) (path : String) :
    ∃ userRoles, userRoles.rows = s.db.userRoles.rows ++ s.db.firstRoles.map (⟨user, ·, now⟩) ∧
      (farmAdmission now path user).run s =
        (.ok (), s.withDb ((upsertFarmUser user now s.db).withUserRoles userRoles)) := by
  have hfind := find?_upsertFarmUser_of_new hnew now
  obtain ⟨userRoles, hrows, hassign⟩ :=
    run_assignFarmRoles_new (s := s.withDb (upsertFarmUser user now s.db))
      (Table.has_of_find? hfind) (hconsistent.roleCount hnew) hconsistent.owner
      hconsistent.everyone now
  refine ⟨userRoles, hrows, ?_⟩
  unfold farmAdmission isBanned
  rw [Prog.run_bind_of_ok (run_write _ s), Prog.run_bind_of_ok hassign,
    Prog.run_bind_of_ok (run_fetch _ _)]
  have hbanned : ¬ s.db.bans.has user = true := by
    rw [hconsistent.not_banned hnew]
    simp
  refine (Prog.run_bind_of_ok (Prog.run_ensure_of_pos hbanned _ _)).trans ?_
  rw [Prog.run_bind_of_ok (run_fetch _ _)]
  apply Prog.run_ensure_of_pos
  change (((upsertFarmUser user now s.db).users.find? user).map (·.approvalStatus)).getD .approved =
    .pending → _
  rw [hfind]
  intro hpending
  cases hpending

/-- What the extractor makes of a valid token of a new user. -/
theorem run_authUser_new (hconsistent : s.db.Consistent) (hnew : s.db.users.has user = false)
    {token : String} (htoken : isFarmToken token = true)
    (hvalid : ((farmIdentity lib env token).run s).1 = .ok user) (path : String) :
    ∃ userRoles, userRoles.rows =
        s.db.userRoles.rows ++ s.db.firstRoles.map (⟨user, ·, env.now⟩) ∧
      ((authUser lib env (.bearing token path)).run s).1 = .ok user ∧
      ((authUser lib env (.bearing token path)).run s).2.db =
        (upsertFarmUser user env.now s.db).withUserRoles userRoles := by
  have hdb := db_farmIdentity lib env token s
  rw [run_authUser_farm htoken]
  rcases hrun : (farmIdentity lib env token).run s with ⟨result, t⟩
  rw [hrun] at hvalid hdb
  dsimp only at hvalid hdb
  obtain ⟨userRoles, hrows, hfarm⟩ := run_farmAdmission_new (s := t) (by rwa [hdb])
    (by rwa [hdb]) env.now path
  rw [hdb] at hrows hfarm
  refine ⟨userRoles, hrows, ?_⟩
  rw [Prog.run_bind', hrun, hvalid]
  dsimp only
  rw [Prog.run_bind_of_ok hfarm]
  exact ⟨rfl, rfl⟩

/-! ## The login -/

/-- The admission gates let a plain request pass exactly if none is in force. -/
theorem admission_plain (lib : Crates) (login : LoginEnv) (challenge signature : String)
    (hbanned : db.bans.has user = false) :
    (∃ minLevel, db.admission lib login (plainRequest user challenge signature) user =
        .ok minLevel) ↔
      db.minSecurityLevel = 0 ∧ db.minPowLevel = 0 ∧
        (db.setting "cert_mode").getD "none" = "none" := by
  unfold Db.admission
  rw [hbanned]
  by_cases hlevel : db.minSecurityLevel = 0
  · by_cases hpow : db.minPowLevel = 0
    · by_cases hcert : (db.setting "cert_mode").getD "none" = "none"
      · simp [checkSecurityLevel, checkPowProof, Db.certCheck, hlevel, hpow, hcert]
      · simp [checkSecurityLevel, checkPowProof, Db.certCheck, hlevel, hpow, hcert, plainRequest]
    · have hpositive : db.minPowLevel > 0 := Nat.pos_of_ne_zero hpow
      simp [checkSecurityLevel, checkPowProof, hlevel, hpow, hpositive, plainRequest]
  · have hpositive : db.minSecurityLevel > 0 := Nat.pos_of_ne_zero hlevel
    simp [checkSecurityLevel, hlevel, hpositive, plainRequest]

theorem run_inviteGate_open (req : VerifyRequest) (h : s.db.isInviteOnly = false) :
    (inviteGate login req user).run s = (.ok (), s) := by
  unfold inviteGate
  rw [Prog.run_bind_of_ok (run_fetch _ s), Prog.when]
  split_ifs
  · rw [Prog.run_bind_of_ok (run_fetch _ s), h]
    rfl
  · rfl

theorem run_challengeGate_off (req : VerifyRequest) (h : s.db.challengeMode = "off") :
    (challengeGate login req).run s = (.ok (), s) := by
  unfold challengeGate
  rw [Prog.run_bind_of_ok (run_fetch _ s), Prog.when, if_neg (not_not.mpr h)]
  rfl

/-- Without gates the last stages only assign roles. -/
theorem run_late_open {userRoles : Table UserRoleRow UserRoleRow.key}
    (hassign : (assignRoles login user).run s = (.ok (), s.withDb (s.db.withUserRoles userRoles)))
    (hinvite : s.db.isInviteOnly = false) (hmode : s.db.challengeMode = "off")
    (req : VerifyRequest) (minLevel : ℕ) :
    ((do
      inviteGate login req user
      assignRoles login user
      challengeGate login req
      let scope ← sessionScope user minLevel
      pure ⟨login.token, scope⟩ : Handler VerifyResponse).run s).2 =
        s.withDb (s.db.withUserRoles userRoles) := by
  have hoff : (challengeGate login req).run (s.withDb (s.db.withUserRoles userRoles)) =
      (.ok (), s.withDb (s.db.withUserRoles userRoles)) := run_challengeGate_off req hmode
  rw [Prog.run_bind_of_ok (run_inviteGate_open req hinvite), Prog.run_bind_of_ok hassign,
    Prog.run_bind_of_ok hoff]
  rfl

section Login

variable {challenge signature : String}
  (hchallenge : challengeAnswer lib login (plainRequest user challenge signature)
    (s.pendingChallenges user) = .ok ())
  (hconsistent : s.db.Consistent) (hnew : s.db.users.has user = false)
  (hfresh : ∀ row ∈ s.db.sessions.rows, row.token ≠ login.token)

include hchallenge hconsistent hnew hfresh

/-- A plain login of a new user succeeds exactly if no gate is in force. -/
theorem verify_plain_isOk :
    ((verify lib login (plainRequest user challenge signature)).run s).1.isOk = true ↔
      s.db.GatesOpen := by
  have hadmission := admission_plain lib login challenge signature (hconsistent.not_banned hnew)
  have hcount := hconsistent.roleCount hnew
  have hroles : s.db.RolesAssignable user := fun _ => ⟨.inr hconsistent.owner, hconsistent.everyone⟩
  have hinvite : s.db.inviteCheck login (plainRequest user challenge signature) user = .ok () ↔
      s.db.isInviteOnly = false := by
    unfold Db.inviteCheck
    cases s.db.isInviteOnly <;> simp [hcount, plainRequest]
  have htoken : s.db.challengeCheck login (plainRequest user challenge signature) = .ok () ↔
      s.db.challengeMode = "off" := by
    unfold Db.challengeCheck
    by_cases hmode : s.db.challengeMode = "off" <;> simp [hmode, plainRequest]
  constructor
  · intro hok
    have hreaches := reachesEnrolment_of_isOk hok
    obtain ⟨hlevel, hpow, hcert⟩ := hadmission.mp hreaches.2.2
    obtain ⟨hinvited, -, hanswered⟩ := (verify_of_reachesEnrolment hfresh hreaches).1.mp hok
    exact ⟨hlevel, hpow, hcert, hinvite.mp hinvited, htoken.mp hanswered⟩
  · intro hopen
    have hreaches : ReachesEnrolment lib login (plainRequest user challenge signature) s :=
      ⟨⟨hchallenge, rfl⟩, fun hbot => (by cases hbot),
        hadmission.mpr ⟨hopen.securityLevel, hopen.powLevel, hopen.certMode⟩⟩
    exact (verify_of_reachesEnrolment hfresh hreaches).1.mpr
      ⟨hinvite.mpr hopen.inviteOnly, hroles, htoken.mpr hopen.challengeMode⟩

/-- What a plain login leaves if no gate is in force. -/
theorem verify_plain_db (hopen : s.db.GatesOpen) :
    ∃ userRoles, userRoles.rows =
        s.db.userRoles.rows ++ s.db.firstRoles.map (⟨user, ·, login.now⟩) ∧
      ((verify lib login (plainRequest user challenge signature)).run s).2.db.userRoles =
        userRoles ∧
      ((verify lib login (plainRequest user challenge signature)).run s).2.db.users =
        (upsertUser user login.now s.db.newMemberStatus none s.db).users := by
  have hok := (verify_plain_isOk hchallenge hconsistent hnew hfresh).mpr hopen
  rcases run_verify_cases lib login (plainRequest user challenge signature) s with
    ⟨e, t, -, hrun⟩ | ⟨canonical, master, minLevel, t, hcheck, hrun⟩
  · rw [hrun] at hok
    cases hok
  · obtain ⟨-, -, hcanonical, hbot, -⟩ := checkLogin_ok hcheck
    cases hcanonical
    -- Nothing is registered for a request that is no bot's.
    have ht : t = s.setChallenge user none := by
      cases hbot
      rfl
    subst ht
    obtain ⟨sessions, -, hlate⟩ := run_completeLogin (plainRequest user challenge signature)
      (s := s.setChallenge user none) hfresh user none minLevel
    have hfind := find?_upsertUser user login.now s.db.newMemberStatus none s.db user
    rw [if_pos rfl] at hfind
    obtain ⟨userRoles, hrows, hassign⟩ := run_assignRoles_new
      (s := (s.setChallenge user none).withDb ((upsertUser user login.now s.db.newMemberStatus none
        s.db).withSessions sessions)) (Table.has_of_find? hfind) (hconsistent.roleCount hnew)
      hconsistent.owner hconsistent.everyone login
    have hstate := run_late_open hassign hopen.inviteOnly hopen.challengeMode
      (plainRequest user challenge signature) minLevel
    have hverify := congrArg Prod.snd (hrun.trans hlate)
    refine ⟨userRoles, hrows, ?_, ?_⟩
    · exact congrArg (·.db.userRoles) (hverify.trans hstate)
    · exact congrArg (·.db.users) (hverify.trans hstate)

end Login

theorem newMemberStatus_eq_approved_iff :
    db.newMemberStatus = .approved ↔ ¬ db.NeedsApproval := by
  unfold Db.newMemberStatus initialStatus Db.NeedsApproval
  by_cases hrequired : db.setting "require_approval" = some "true"
  · cases db.users.rows <;> simp [hrequired]
  · simp [hrequired]

/-- Which roles were added does not depend on when. -/
theorem has_firstRoles {first second base : Table UserRoleRow UserRoleRow.key}
    {roleIds : List String} {firstNow secondNow : Int}
    (hfirst : first.rows = base.rows ++ roleIds.map (⟨user, ·, firstNow⟩))
    (hsecond : second.rows = base.rows ++ roleIds.map (⟨user, ·, secondNow⟩)) (roleId : String) :
    first.has (user, roleId) = second.has (user, roleId) := by
  unfold Table.has
  rw [hfirst, hsecond, List.any_append, List.any_append, List.any_map, List.any_map]
  rfl

/-- **Both ways into a hub.** For a user without a member row who holds a valid
token of the farm, the extractor decides as a login with the same credentials
would, exactly if no gate of the login is in force, no approval is needed and the
key is not revoked. -/
theorem farmAdmission_policyAgrees_iff (lib : Crates) (env : AuthEnv) (token path : String)
    (login : LoginEnv) (user challenge signature : String) (s : AppState)
    (htoken : isFarmToken token = true)
    (hvalid : ((farmIdentity lib env token).run s).1 = .ok user)
    (hnew : s.db.users.has user = false) (hconsistent : s.db.Consistent)
    (hchallenge : challengeAnswer lib login (plainRequest user challenge signature)
      (s.pendingChallenges user) = .ok ())
    (hfresh : ∀ row ∈ s.db.sessions.rows, row.token ≠ login.token) :
    PolicyAgrees lib env token path login (plainRequest user challenge signature) user s ↔
      s.db.GatesOpen ∧ ¬ s.db.NeedsApproval ∧ s.db.isRevoked user = false := by
  obtain ⟨farmRoles, hfarmRows, hadmitted, hfarm⟩ :=
    run_authUser_new hconsistent hnew htoken hvalid path
  have hfarmRow := find?_upsertFarmUser_of_new hnew env.now
  have hnativeRow := find?_upsertUser user login.now s.db.newMemberStatus none s.db user
  rw [if_pos rfl, Table.find?_eq_none_iff.mpr (Table.has_eq_false_iff.mp hnew)] at hnativeRow
  have hisOk := verify_plain_isOk hchallenge hconsistent hnew hfresh
  constructor
  · intro h
    obtain ⟨hok, hstanding⟩ := h.admitted hadmitted
    have hopen := hisOk.mp hok
    refine ⟨hopen, ?_, ?_⟩
    · obtain ⟨-, -, -, husers⟩ := verify_plain_db hchallenge hconsistent hnew hfresh hopen
      have hstatus := hstanding.status
      rw [hfarm, husers, hnativeRow] at hstatus
      change ((upsertFarmUser user env.now s.db).users.find? user).map _ = _ at hstatus
      rw [hfarmRow] at hstatus
      apply newMemberStatus_eq_approved_iff.mp
      exact (Option.some.inj hstatus).symm
    · by_contra hrevoked
      have hmissing := (h.refused (.inr (by simpa using hrevoked))).1
      rw [hfarm] at hmissing
      have hpresent : (upsertFarmUser user env.now s.db).users.has user = true :=
        Table.has_of_find? hfarmRow
      exact absurd (hpresent.symm.trans hmissing) (by decide)
  · rintro ⟨hopen, happroval, hrevoked⟩
    obtain ⟨nativeRoles, hnativeRows, hroles, husers⟩ :=
      verify_plain_db hchallenge hconsistent hnew hfresh hopen
    refine ⟨fun _ => ⟨hisOk.mpr hopen, ?_, ?_⟩, ?_⟩
    · rw [hfarm, husers, hnativeRow]
      change ((upsertFarmUser user env.now s.db).users.find? user).map _ = _
      rw [hfarmRow, newMemberStatus_eq_approved_iff.mpr happroval]
      rfl
    · intro roleId
      rw [hfarm, hroles]
      exact has_firstRoles hfarmRows hnativeRows roleId
    · rintro (hbanned | hrevoked')
      · rw [hconsistent.not_banned hnew] at hbanned
        cases hbanned
      · rw [hrevoked] at hrevoked'
        cases hrevoked'

/-- The farm of the laptop's holder, and a token it signed. -/
def farmKey : String := "ca93ac1705187071d67b83c7ff0efe8108e8ec4530575d7726879333dbdabe7c"

def farmPayload : String :=
  "\x7b\"exp\":2000,\"iss_pk\":\"" ++ farmKey ++ "\",\"sub\":\"" ++ laptopKey ++ "\"\x7d"

def farmSignature : RecordedSignature :=
  ⟨.replicate 32 4, farmKey, asBytes farmPayload,
    "c3e19ef067c98423fd92105c255afb1710783e51ebc1ac8d15044894ae0e483a" ++
    "fbb5a4d44c145a52e459d606319b50237f67b8e231f65a8e19e8528e896c5708"⟩

/-- The two parts of the token, in base64. -/
def farmPayloadB64 : String :=
  "eyJleHAiOjIwMDAsImlzc19wayI6ImNhOTNhYzE3MDUxODcwNzFkNjdiODNjN2Zm" ++
    "MGVmZTgxMDhlOGVjNDUzMDU3NWQ3NzI2ODc5MzMzZGJkYWJlN2MiLCJzdWIiOiI4" ++
    "YTg4ZTNkZDc0MDlmMTk1ZmQ1MmRiMmQzY2JhNWQ3MmNhNjcwOWJmMWQ5NDEyMWJm" ++
    "Mzc0ODgwMWI0MGY2ZjVjIn0"

def farmSignatureB64 : String :=
  "w-Ge8GfJhCP9khBcJVr7FxB4PlHrwayNFQRIlK4OSDr7taTUTBRaUuRZ1gYxm1Aj" ++
    "f2e44jH2Wo4Z6FKOiWxXCA"

def farmToken : String := farmPayloadB64 ++ "." ++ farmSignatureB64

def farmLib : Crates :=
  { Crates.ofRecorded [laptopAnswer, farmSignature] with
    base64Decode := fun text =>
      if text = asBytes farmPayloadB64 then some (asBytes farmPayload)
      else if text = asBytes farmSignatureB64 then hexDecode farmSignature.signatureHex
      else none
    readFarmTokenPayload := fun bytes =>
      if bytes = asBytes farmPayload then some ⟨2000, farmKey, laptopKey⟩ else none }

def farmEnv : AuthEnv := ⟨100, 100, 100, 100, 100, none⟩

/-- A hub of that farm. -/
def farmHub (db : Db) : AppState :=
  { challengedHub db with cachedFarmPubkey := some farmKey }

theorem isFarmToken_farmToken : isFarmToken farmToken = true := by
  decide +kernel

theorem farmAdmission_policyAgrees_migrated :
    ((authUser farmLib farmEnv (.bearing farmToken "/channels")).run (farmHub .migrated)).1 =
        .ok laptopKey ∧
      PolicyAgrees farmLib farmEnv farmToken "/channels" (.fixed 10 1)
        (plainRequest laptopKey (hexEncode laptopAnswer.message) laptopAnswer.signatureHex)
        laptopKey (farmHub .migrated) := by
  have hconsistent : (farmHub .migrated).db.Consistent :=
    ⟨fun _ h => absurd h List.not_mem_nil, fun _ h => absurd h List.not_mem_nil, by decide,
      by decide⟩
  have hopen : (farmHub .migrated).db.GatesOpen :=
    ⟨by decide +kernel, by decide +kernel, by decide +kernel, by decide +kernel,
      by decide +kernel⟩
  obtain ⟨hvalid, hadmitted, hchallenge⟩ :
      ((farmIdentity farmLib farmEnv farmToken).run (farmHub .migrated)).1 = .ok laptopKey ∧
        ((do
            let publicKey ← farmIdentity farmLib farmEnv farmToken
            farmAdmission farmEnv.now "/channels" publicKey
            pure publicKey : Handler String).run (farmHub .migrated)).1 = .ok laptopKey ∧
        challengeAnswer farmLib (.fixed 10 1) (plainRequest laptopKey
          (hexEncode laptopAnswer.message) laptopAnswer.signatureHex)
            ((farmHub .migrated).pendingChallenges laptopKey) = .ok () := by
    decide +kernel
  have hnew : (farmHub .migrated).db.users.has laptopKey = false := rfl
  constructor
  · rw [run_authUser_farm isFarmToken_farmToken]
    exact hadmitted
  · exact (farmAdmission_policyAgrees_iff farmLib farmEnv farmToken "/channels" (.fixed 10 1)
      laptopKey _ _ (farmHub .migrated) isFarmToken_farmToken hvalid hnew hconsistent hchallenge
      fun _ h => absurd h List.not_mem_nil).mpr ⟨hopen, fun h => absurd rfl h.2, rfl⟩

/-- An invite-only hub lets a farm user in without an invite. -/
def inviteOnlyFarmHub : AppState :=
  farmHub { Db.migrated with hubSettings := inviteOnlySettings }

theorem inviteOnlyFarmHub_disagrees :
    inviteOnlyFarmHub.db.users.has laptopKey = false ∧ inviteOnlyFarmHub.db.Consistent ∧
      ((authUser farmLib farmEnv (.bearing farmToken "/channels")).run inviteOnlyFarmHub).1 =
        .ok laptopKey ∧
      ¬ PolicyAgrees farmLib farmEnv farmToken "/channels" (.fixed 10 1)
        (plainRequest laptopKey (hexEncode laptopAnswer.message) laptopAnswer.signatureHex)
        laptopKey inviteOnlyFarmHub := by
  have hadmitted : ((authUser farmLib farmEnv (.bearing farmToken "/channels")).run
      inviteOnlyFarmHub).1 = .ok laptopKey := by
    rw [run_authUser_farm isFarmToken_farmToken]
    decide +kernel
  have hrefused : ((verify farmLib (.fixed 10 1) (plainRequest laptopKey
      (hexEncode laptopAnswer.message) laptopAnswer.signatureHex)).run
        inviteOnlyFarmHub).1.isOk = false := by
    decide +kernel
  refine ⟨rfl, ?_, hadmitted, ?_⟩
  · exact ⟨fun _ h => absurd h List.not_mem_nil, fun _ h => absurd h List.not_mem_nil, by decide,
      by decide⟩
  · intro h
    exact absurd ((h.admitted hadmitted).1.symm.trans hrefused) (by decide)

end Voxply.Hub
