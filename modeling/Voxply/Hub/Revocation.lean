/-
# Revoked device keys

A master revokes a device key by a signed entry; the entry is stored under the
pair of the two keys.  The extractors look revocations up by the key that a
session belongs to, whoever issued them.  The first part compares what they
accept before and after an entry is stored; the second part follows the
sessions that were opened with a certificate through whole runs of the hub.
-/

import Voxply.Hub.AuthUser
import Voxply.Hub.CanonicalIdentity

namespace Voxply.Hub

open Voxply.Math Voxply.Identity

variable {lib : Crates} {s t : AppState} {db : Db} {row : SubkeyRevocationRow}

/-! ## Bearer tokens -/

@[simp]
theorem stripBearer_append (token : String) : stripBearer ("Bearer " ++ token) = some token := by
  simp [stripBearer]

/-- A request that carries a token. -/
def AuthRequest.bearing (token path : String) : AuthRequest :=
  ⟨some ("Bearer " ++ token), path⟩

@[simp]
theorem bearerToken_bearing (token path : String) :
    bearerToken (.bearing token path) = .ok token := by
  simp [bearerToken, AuthRequest.bearing]

theorem run_authUser_session {token : String} (htoken : isFarmToken token = false) (env : AuthEnv)
    (path : String) :
    (authUser lib env (.bearing token path)).run s = (opaqueIdentity path token).run s := by
  unfold authUser
  rw [bearerToken_bearing, Prog.run_bind_of_ok (Prog.run_ofExcept _ s), htoken]
  rfl

/-! ## What the extractors answer -/

/-- What an opaque token is answered with. -/
def Db.opaqueAnswer (db : Db) (path token : String) : Except ApiError String :=
  match (db.sessionUser token).or (db.botTokenUser token) with
  | none => .error ⟨.unauthorized, "Invalid or expired token"⟩
  | some (publicKey, approvalStatus) =>
      if db.isRevoked publicKey then .error ⟨.unauthorized, "Key has been revoked"⟩
      else if approvalStatus = .pending ∧ path ∉ pendingAllowedPaths then
        .error ⟨.forbidden, "Account is pending admin approval"⟩
      else .ok publicKey

theorem run_tokenOwner (token : String) :
    (tokenOwner token).run s =
      (((s.db.sessionUser token).or (s.db.botTokenUser token)).elim
        (.error ⟨.unauthorized, "Invalid or expired token"⟩) .ok, s) := by
  unfold tokenOwner
  rw [Prog.run_bind_of_ok (run_fetch _ s)]
  cases s.db.sessionUser token with
  | some owner => rfl
  | none =>
      dsimp only
      rw [Prog.run_bind_of_ok (run_fetch _ s), Prog.run_ofExcept, Option.none_or]

theorem run_opaqueIdentity (path token : String) :
    (opaqueIdentity path token).run s = (s.db.opaqueAnswer path token, s) := by
  unfold opaqueIdentity Db.opaqueAnswer
  rw [Prog.run_bind', run_tokenOwner]
  rcases (s.db.sessionUser token).or (s.db.botTokenUser token) with - | ⟨publicKey, status⟩
  · rfl
  · dsimp only [Option.elim]
    rw [Prog.run_bind_of_ok (run_fetch _ s)]
    by_cases hrevoked : s.db.isRevoked publicKey = true
    · rw [if_pos hrevoked]
      exact Prog.run_bind_of_error (Prog.run_ensure_of_neg (by simpa using hrevoked) _ s)
    · rw [if_neg hrevoked, Prog.run_bind_of_ok (Prog.run_ensure_of_pos hrevoked _ s)]
      split_ifs with hpending
      · exact Prog.run_bind_of_error (Prog.run_ensure_of_neg (by simpa using hpending) _ s)
      · exact Prog.run_bind_of_ok (Prog.run_ensure_of_pos (by simpa using hpending) _ s)

/-- What a websocket token is answered with. -/
def Db.wsAnswer (db : Db) (token : String) : Except ApiError String :=
  match db.sessions.find? token with
  | none => .error ⟨.unauthorized, "Invalid token"⟩
  | some session =>
      if db.isRevoked session.publicKey then .error ⟨.unauthorized, "Key has been revoked"⟩
      else .ok session.publicKey

theorem run_wsHandler (token : String) :
    (wsHandler token).run s = (s.db.wsAnswer token, s) := by
  unfold wsHandler Db.wsAnswer
  rw [Prog.run_bind_of_ok (run_fetch _ s)]
  cases s.db.sessions.find? token with
  | none => rfl
  | some session =>
      dsimp only [Option.map]
      rw [Prog.run_bind_of_ok (run_fetch _ s)]
      split_ifs with hrevoked
      · exact Prog.run_bind_of_error (Prog.run_ensure_of_neg (by simpa using hrevoked) _ s)
      · exact Prog.run_bind_of_ok (Prog.run_ensure_of_pos hrevoked _ s)

/-! ## Storing an entry -/

theorem isRevoked_congr {db' : Db} (h : db'.subkeyRevocations = db.subkeyRevocations)
    (publicKey : String) : db'.isRevoked publicKey = db.isRevoked publicKey := by
  rw [Db.isRevoked, Db.isRevoked, h]

theorem isRevoked_insertRevocation (publicKey : String) :
    (insertRevocation row db).isRevoked publicKey =
      (db.isRevoked publicKey || decide (row.subkeyPubkey = publicKey)) := by
  rw [Bool.eq_iff_iff]
  simp only [Db.isRevoked, insertRevocation, List.any_eq_true, Table.mem_insertOrIgnore,
    decide_eq_true_eq, Bool.or_eq_true]
  constructor
  · rintro ⟨old, hold | ⟨-, rfl⟩, hkey⟩
    · exact .inl ⟨old, hold, hkey⟩
    · exact .inr hkey
  · rintro (⟨old, hold, hkey⟩ | hkey)
    · exact ⟨old, .inl hold, hkey⟩
    · by_cases hfree : ∀ old ∈ db.subkeyRevocations.rows, old.key ≠ row.key
      · exact ⟨row, .inr ⟨hfree, rfl⟩, hkey⟩
      · -- The pair is stored already, so the device key is.
        push Not at hfree
        obtain ⟨old, hold, holdKey⟩ := hfree
        exact ⟨old, .inl hold, (Prod.mk.inj holdKey).2.trans hkey⟩

/-- An accepted entry was signed by its master and is stored; a refused one
leaves no trace. -/
theorem run_postRevocation_cases (lib : Crates) (registeredAt : Int) (master : String)
    (entry : RevocationEntry) (s : AppState) :
    (∃ e, (postRevocation lib registeredAt master entry).run s = (.error e, s)) ∨
    (entry.masterPubkey = master ∧ entry.verify lib.ed25519 = .ok ()) ∧
      (postRevocation lib registeredAt master entry).run s =
        (.ok .ok, s.withDb (insertRevocation (revocationRow registeredAt entry) s.db)) := by
  unfold postRevocation
  by_cases hmaster : entry.masterPubkey = master
  · rw [Prog.run_bind_of_ok (Prog.run_ensure_of_pos hmaster _ s), Prog.run_bind',
      Prog.run_ofExcept]
    cases entry.verify lib.ed25519 with
    | error e => exact .inl ⟨_, rfl⟩
    | ok _ => exact .inr ⟨⟨hmaster, rfl⟩, rfl⟩
  · exact .inl ⟨_, Prog.run_bind_of_error (Prog.run_ensure_of_neg hmaster _ s)⟩

/-! ## Farm tokens do not see revocations -/

/-- Store a revocation. -/
def AppState.revoke (row : SubkeyRevocationRow) (s : AppState) : AppState :=
  s.withDb (insertRevocation row s.db)

theorem ignores_fetch {A : Type} {f : Db → A} (h : ∀ db, f (insertRevocation row db) = f db) :
    (fetch f).Ignores (AppState.revoke row) :=
  Prog.ignores_query fun s => h s.db

theorem ignores_write {f : Db → Db}
    (h : ∀ db, f (insertRevocation row db) = insertRevocation row (f db)) :
    (write f).Ignores (AppState.revoke row) := by
  intro s
  rw [run_write, run_write, AppState.revoke, withDb_db, h s.db]
  rfl

theorem insertUserRole_insertRevocation (role : UserRoleRow) (db : Db) :
    insertUserRole role (insertRevocation row db) =
      (insertUserRole role db).map (insertRevocation row) := by
  have hinsert : (insertRevocation row db).userRoles.insert? role = db.userRoles.insert? role := rfl
  rw [insertUserRole, insertUserRole, hinsert]
  cases db.userRoles.insert? role with
  | none => rfl
  | some userRoles =>
      change (if db.users.has role.userPublicKey ∧ db.roles.has role.roleId then _ else _) = _
      dsimp only
      split_ifs <;> rfl

theorem insertUserRoleOrIgnore_insertRevocation (role : UserRoleRow) (db : Db) :
    insertUserRoleOrIgnore role (insertRevocation row db) =
      (insertUserRoleOrIgnore role db).map (insertRevocation row) := by
  unfold insertUserRoleOrIgnore
  rw [insertUserRole_insertRevocation]
  change (if db.userRoles.has role.key = true then _ else _) = _
  split_ifs <;> rfl

theorem ignores_writeIgnoring {f : Db → Except SqlError Db}
    (h : ∀ db, f (insertRevocation row db) = (f db).map (insertRevocation row)) :
    (writeIgnoring f).Ignores (AppState.revoke row) := by
  apply ignores_write
  intro db
  rw [h db]
  cases f db <;> rfl

theorem ignores_farmIdentity (env : AuthEnv) (token : String) :
    (farmIdentity lib env token).Ignores (AppState.revoke row) := by
  apply Prog.Ignores.bind
  · exact Prog.ignores_query fun _ => rfl
  intro cached
  cases cached with
  | none => exact Prog.ignores_fail _
  | some farmPubkey =>
      dsimp only
      cases tryVerifyFarmToken lib env.checkNow farmPubkey token with
      | ok sub => exact Prog.ignores_ret sub
      | error firstErr =>
          apply Prog.Ignores.bind
          · exact Prog.ignores_query fun _ => rfl
          intro _
          apply Prog.Ignores.bind
          · exact Prog.ignores_ensure
          intro _
          apply Prog.Ignores.bind
          · exact Prog.ignores_query fun _ => rfl
          intro _
          apply Prog.Ignores.bind
          · exact Prog.ignores_ensure
          intro _
          apply Prog.Ignores.bind
          · exact Prog.ignores_exec fun _ => rfl
          intro _
          cases env.farmInfo with
          | none => exact Prog.ignores_fail _
          | some newPk =>
              apply Prog.Ignores.bind
              · exact Prog.ignores_exec fun _ => rfl
              exact fun _ => Prog.ignores_ofExcept _

theorem ignores_assignFarmRoles (now : Int) (publicKey : String) :
    (assignFarmRoles now publicKey).Ignores (AppState.revoke row) := by
  apply Prog.Ignores.bind
  · exact ignores_fetch fun _ => rfl
  intro _
  apply Prog.ignores_when
  apply Prog.Ignores.bind
  · exact ignores_fetch fun _ => rfl
  intro _
  apply Prog.Ignores.bind
  · apply Prog.ignores_when
    exact ignores_writeIgnoring (insertUserRole_insertRevocation _)
  intro _
  exact ignores_writeIgnoring (insertUserRoleOrIgnore_insertRevocation _)

theorem ignores_farmAdmission (now : Int) (path publicKey : String) :
    (farmAdmission now path publicKey).Ignores (AppState.revoke row) := by
  apply Prog.Ignores.bind
  · exact ignores_write fun _ => rfl
  intro _
  apply Prog.Ignores.bind (ignores_assignFarmRoles now publicKey)
  intro _
  apply Prog.Ignores.bind
  · exact ignores_fetch fun _ => rfl
  intro _
  apply Prog.Ignores.bind
  · exact Prog.ignores_ensure
  intro _
  apply Prog.Ignores.bind
  · exact ignores_fetch fun _ => rfl
  intro _
  exact Prog.ignores_ensure

theorem run_authUser_farm {token : String} (htoken : isFarmToken token = true) (env : AuthEnv)
    (path : String) (s : AppState) :
    (authUser lib env (.bearing token path)).run s =
      (do
        let publicKey ← farmIdentity lib env token
        farmAdmission env.now path publicKey
        pure publicKey : Handler String).run s := by
  unfold authUser
  rw [bearerToken_bearing, Prog.run_bind_of_ok (Prog.run_ofExcept _ s), if_pos htoken]
  rfl

/-- A farm token is answered the same before and after an entry is stored. -/
theorem run_authUser_farm_revoke {token : String} (htoken : isFarmToken token = true)
    (env : AuthEnv) (path : String) (s : AppState) :
    ((authUser lib env (.bearing token path)).run (s.revoke row)).1 =
      ((authUser lib env (.bearing token path)).run s).1 := by
  have hignores : (do
      let publicKey ← farmIdentity lib env token
      farmAdmission env.now path publicKey
      pure publicKey : Handler String).Ignores (AppState.revoke row) := by
    apply Prog.Ignores.bind (ignores_farmIdentity env token)
    intro publicKey
    apply Prog.Ignores.bind (ignores_farmAdmission env.now path publicKey)
    exact fun _ => Prog.ignores_ret publicKey
  rw [run_authUser_farm htoken, run_authUser_farm htoken, hignores s]

/-! ## Entries about other people's keys -/

/-- Every session of a user is accepted after a step exactly if it was before. -/
def SessionsUnaffected (lib : Crates) (publicKey : String) (s t : AppState) : Prop :=
  ∀ session ∈ s.db.sessions.rows, session.publicKey = publicKey →
    (∀ env path, ((authUser lib env (.bearing session.token path)).run t).1.isOk =
      ((authUser lib env (.bearing session.token path)).run s).1.isOk) ∧
    ((wsHandler session.token).run t).1.isOk = ((wsHandler session.token).run s).1.isOk

theorem sessionUser_of_mem {session : SessionRow} (hsession : session ∈ db.sessions.rows)
    {user : UserRow} (huser : user ∈ db.users.rows) (hkey : session.publicKey = user.publicKey) :
    db.sessionUser session.token = some (user.publicKey, user.approvalStatus) := by
  unfold Db.sessionUser
  rw [Table.find?_eq_some_iff.mpr ⟨hsession, rfl⟩, Option.bind_some,
    Table.find?_eq_some_iff.mpr ⟨huser, hkey.symm⟩, Option.map_some, hkey]

/-- If the entry does not change whether the user's key counts as revoked, it
changes nothing for the user's sessions. -/
theorem sessionsUnaffected_of_isRevoked_eq {user : UserRow} (huser : user ∈ s.db.users.rows)
    (hsame : (s.revoke row).db.isRevoked user.publicKey = s.db.isRevoked user.publicKey) :
    SessionsUnaffected lib user.publicKey s (s.revoke row) := by
  intro session hsession hkey
  have howner := sessionUser_of_mem hsession huser hkey
  have howner' : (s.revoke row).db.sessionUser session.token =
      some (user.publicKey, user.approvalStatus) := howner
  constructor
  · intro env path
    cases htoken : isFarmToken session.token with
    | true => rw [run_authUser_farm_revoke htoken]
    | false =>
        rw [run_authUser_session htoken, run_authUser_session htoken, run_opaqueIdentity,
          run_opaqueIdentity]
        simp only [Db.opaqueAnswer, howner, howner', Option.some_or, hsame]
  · have hfind : s.db.sessions.find? session.token = some session :=
      Table.find?_eq_some_iff.mpr ⟨hsession, rfl⟩
    have hfind' : (s.revoke row).db.sessions.find? session.token = some session := hfind
    rw [run_wsHandler, run_wsHandler]
    simp only [Db.wsAnswer, hfind, hfind', hkey, hsame]

/-- **Revocation and other people's sessions.** An accepted entry leaves the
sessions of a user alone exactly if it does not name the user's key, or the key
was revoked before, or the user has no session. It does not matter whose master
signed the entry. -/
theorem postRevocation_sessionsUnaffected_iff (lib : Crates) (registeredAt : Int)
    (master : String) (entry : RevocationEntry) (s t : AppState) (answer : StatusCode)
    (haccepted : (postRevocation lib registeredAt master entry).run s = (.ok answer, t))
    (user : UserRow) (huser : user ∈ s.db.users.rows) :
    SessionsUnaffected lib user.publicKey s t ↔
      entry.subkeyPubkey ≠ user.publicKey ∨ s.db.isRevoked user.publicKey = true ∨
        ∀ session ∈ s.db.sessions.rows, session.publicKey ≠ user.publicKey := by
  have ht : t = s.revoke (revocationRow registeredAt entry) := by
    rcases run_postRevocation_cases lib registeredAt master entry s with ⟨e, hrun⟩ | ⟨-, hrun⟩
    · rw [hrun] at haccepted
      cases haccepted
    · rw [hrun] at haccepted
      cases haccepted
      rfl
  subst ht
  have hrevoked : (s.revoke (revocationRow registeredAt entry)).db.isRevoked user.publicKey =
      (s.db.isRevoked user.publicKey || decide (entry.subkeyPubkey = user.publicKey)) :=
    isRevoked_insertRevocation user.publicKey
  constructor
  · intro hunaffected
    by_contra hcondition
    push Not at hcondition
    obtain ⟨hnamed, hbefore, session, hsession, hkey⟩ := hcondition
    -- The websocket lookup accepted the session before and refuses it now.
    have hws := (hunaffected session hsession hkey).2
    have hfind : s.db.sessions.find? session.token = some session :=
      Table.find?_eq_some_iff.mpr ⟨hsession, rfl⟩
    have hfind' : (s.revoke (revocationRow registeredAt entry)).db.sessions.find? session.token =
        some session := hfind
    rw [run_wsHandler, run_wsHandler] at hws
    simp [Db.wsAnswer, hfind, hfind', hkey, hrevoked, hnamed, hbefore, Except.isOk,
      Except.toBool] at hws
  · rintro (hother | hbefore | hnone)
    · apply sessionsUnaffected_of_isRevoked_eq huser
      rw [hrevoked, decide_eq_false hother, Bool.or_false]
    · apply sessionsUnaffected_of_isRevoked_eq huser
      rw [hrevoked, hbefore, Bool.true_or]
    · intro session hsession hkey
      exact absurd hkey (hnone session hsession)

/-- A laptop has logged in; the holder of the phone, who has nothing to do with
it, signs two entries. -/
def strangerEntry : RevocationEntry :=
  ⟨phoneKey, laptopKey, 50,
    "739bb04574c168c5c48d29e16c18ef6021c31dbf77b8241951fef21ee79772dc" ++
      "5724dd92d56dc4027ba5e1f96969a1c481c8920c2579dcd5f871629bef96c005"⟩

def harmlessEntry : RevocationEntry :=
  ⟨phoneKey, ownerKey, 50,
    "d78ef9e69ba21423caac3330ac4c9dca3ea09d9995148b91021aecb7bc4dfbb3" ++
      "96e45a353a190011a48ca5c1c83c50bde9fa1d3f27ace29afbc8be5e36eafd07"⟩

def strangerLib : Crates := .ofRecorded [laptopAnswer,
  ⟨.replicate 32 3, phoneKey, strangerEntry.toSigningBytes, strangerEntry.signature⟩,
  ⟨.replicate 32 3, phoneKey, harmlessEntry.toSigningBytes, harmlessEntry.signature⟩]

def laptopHub : AppState :=
  runAll (LoginCall.exec strangerLib) (loginWith laptopAnswer none 10 1) { db := .migrated }

def laptopRow : UserRow := ⟨laptopKey, 10, 10, .approved, none, false, 0, none, .none, none⟩

theorem postRevocation_sessionsUnaffected_harmless :
    SessionsUnaffected strangerLib laptopKey laptopHub
      ((postRevocation strangerLib 60 phoneKey harmlessEntry).run laptopHub).2 := by
  obtain ⟨hok, hrow, hother⟩ :
      ((postRevocation strangerLib 60 phoneKey harmlessEntry).run laptopHub).1 = .ok .ok ∧
        laptopRow ∈ laptopHub.db.users.rows ∧
        harmlessEntry.subkeyPubkey ≠ laptopRow.publicKey := by
    decide +kernel
  have haccepted : (postRevocation strangerLib 60 phoneKey harmlessEntry).run laptopHub =
      (.ok .ok, ((postRevocation strangerLib 60 phoneKey harmlessEntry).run laptopHub).2) := by
    rw [← hok]
  exact (postRevocation_sessionsUnaffected_iff _ _ _ _ _ _ _ haccepted laptopRow hrow).mpr
    (.inl hother)

/-- Anybody can log the laptop out. -/
theorem stranger_revokes_session :
    let result := (postRevocation strangerLib 60 phoneKey strangerEntry).run laptopHub
    result.1 = .ok .ok ∧ laptopRow ∈ laptopHub.db.users.rows ∧
      laptopRow.publicKey ≠ strangerEntry.masterPubkey ∧
      laptopRow.masterPubkey ≠ some strangerEntry.masterPubkey ∧
      ¬ SessionsUnaffected strangerLib laptopRow.publicKey laptopHub result.2 := by
  obtain ⟨hok, hrow, hsession, hbefore, hafter⟩ :
      ((postRevocation strangerLib 60 phoneKey strangerEntry).run laptopHub).1 = .ok .ok ∧
        laptopRow ∈ laptopHub.db.users.rows ∧
        (⟨hexEncode (.replicate 32 1), laptopKey, 10⟩ : SessionRow) ∈ laptopHub.db.sessions.rows ∧
        ((wsHandler (hexEncode (.replicate 32 1))).run laptopHub).1.isOk = true ∧
        ((wsHandler (hexEncode (.replicate 32 1))).run
          ((postRevocation strangerLib 60 phoneKey strangerEntry).run laptopHub).2).1.isOk =
            false := by
    decide +kernel
  refine ⟨hok, hrow, by decide, by decide, fun h => ?_⟩
  have hsame := (h _ hsession rfl).2
  rw [hbefore, hafter] at hsame
  cases hsame

end Voxply.Hub
