/-
# Roles and permissions

Members hold roles; a role has a priority and a set of permissions.  A member
who may manage roles may create, change, delete, assign and remove those whose
priority lies strictly below the highest priority they hold themselves.  Every
request first reads the caller's roles and permissions, then the role it is
about, and writes afterwards; nothing locks the rows in between.
-/

import Voxply.Hub.Db
import Mathlib.Data.List.Dedup

namespace Voxply.Hub

open Voxply.Math

/-! ## Permissions of a user -/

def manageRoles : String := "manage_roles"

def admin : String := "admin"

/-- What `user_permissions` computes. `effective` is a set: only membership is
ever asked. -/
structure UserPermissions where
  roles : List RoleRow
  effective : List String
  maxPriority : Int

def UserPermissions.has (perms : UserPermissions) (permission : String) : Bool :=
  perms.effective.contains admin || perms.effective.contains permission

def UserPermissions.require (perms : UserPermissions) (permission : String) :
    Except ApiError Unit :=
  if perms.has permission then .ok ()
  else .error ⟨.forbidden, "Missing permission: " ++ permission⟩

/-- The roles a user holds. The key of `user_roles` lets each role match at
most once. -/
def Db.rolesOf (db : Db) (publicKey : String) : List RoleRow :=
  db.roles.rows.filter fun role => db.userRoles.has (publicKey, role.id)

/-- `SELECT DISTINCT permission FROM role_permissions WHERE role_id IN (…)`. -/
def Db.permissionsIn (db : Db) (roleIds : List String) : List String :=
  ((db.rolePermissions.rows.filter fun row => row.roleId ∈ roleIds).map (·.permission)).dedup

/-- The highest priority among some roles, and 0 when there are none. -/
def maxPriority (roles : List RoleRow) : Int :=
  ((roles.map (·.priority)).max?).getD 0

def fetchPermissions (roleIds : List String) : Handler (List String) :=
  if roleIds.isEmpty then pure [] else fetch (·.permissionsIn roleIds)

/-- `user_permissions`: one query for the roles, a second one for their
permissions. -/
def userPermissions (publicKey : String) : Handler UserPermissions := do
  let roles ← fetch (·.rolesOf publicKey)
  let effective ← fetchPermissions (roles.map (·.id))
  pure ⟨roles, effective, maxPriority roles⟩

/-- The permissions of a user as one consistent reading of the store. -/
def Db.userPermissions (db : Db) (publicKey : String) : UserPermissions :=
  let roles := db.rolesOf publicKey
  ⟨roles, db.permissionsIn (roles.map (·.id)), maxPriority roles⟩

/-- Alone, the two queries see the same store. -/
@[simp]
theorem run_userPermissions (publicKey : String) (s : AppState) :
    (Hub.userPermissions publicKey).run s = (.ok (s.db.userPermissions publicKey), s) := by
  unfold Hub.userPermissions
  rw [Prog.run_bind_of_ok (run_fetch _ s)]
  by_cases hempty : s.db.rolesOf publicKey = []
  · simp [Prog.run_bind', fetchPermissions, hempty, Db.userPermissions, Db.permissionsIn]
  · simp [Prog.run_bind', fetchPermissions, hempty, Db.userPermissions]

theorem reads_userPermissions (publicKey : String) : (Hub.userPermissions publicKey).Reads := by
  intro s
  rw [run_userPermissions]

/-- The two queries read, and the second one is sent only if the user has a role. -/
theorem userPermissions_asked {good : List (Sent AppState) → Sent AppState → Prop}
    {publicKey : String} {past : List (Sent AppState)}
    {q : UserPermissions → List (Sent AppState) → Prop}
    (hgood : ∀ s, good past ⟨id, s⟩) (hgood' : ∀ s s', good (past ++ [⟨id, s⟩]) ⟨id, s'⟩)
    (hnone : ∀ s perms, s.db.rolesOf publicKey = [] → perms.effective = [] →
      q perms (past ++ [⟨id, s⟩]))
    (hsome : ∀ s s' perms, s.db.rolesOf publicKey ≠ [] →
      q perms (past ++ [⟨id, s⟩] ++ [⟨id, s'⟩])) :
    (Hub.userPermissions publicKey).Follows good q past := by
  apply follows_fetch_bind hgood
  intro s
  by_cases hroles : s.db.rolesOf publicKey = []
  · rw [hroles]
    exact hnone s _ hroles rfl
  · have hids : ((s.db.rolesOf publicKey).map (·.id)).isEmpty = false := by simpa using hroles
    rw [fetchPermissions, hids, if_neg Bool.false_ne_true]
    apply follows_fetch_bind (hgood' s)
    exact fun s' => hsome s s' _ hroles

/-- Whoever holds a permission has a role, so that the second query is sent. -/
theorem userPermissions_reads (publicKey : String) {past : List (Sent AppState)} :
    (Hub.userPermissions publicKey).Follows (fun _ sent => sent.statement = id)
      (fun perms past' => ∀ permission, perms.require permission = .ok () →
        past'.length = past.length + 2) past := by
  apply userPermissions_asked (fun _ => rfl) fun _ _ => rfl
  · intro s perms _ hnone permission hrequire
    simp [UserPermissions.require, UserPermissions.has, hnone] at hrequire
  · exact fun s s' perms _ permission _ => by simp

theorem mem_rolesOf {db : Db} {publicKey : String} {role : RoleRow} :
    role ∈ db.rolesOf publicKey ↔
      role ∈ db.roles.rows ∧ ∃ row ∈ db.userRoles.rows,
        row.userPublicKey = publicKey ∧ row.roleId = role.id := by
  simp [Db.rolesOf, Table.has, UserRoleRow.key]

theorem mem_permissionsIn {db : Db} {roleIds : List String} {permission : String} :
    permission ∈ db.permissionsIn roleIds ↔
      ∃ row ∈ db.rolePermissions.rows, row.roleId ∈ roleIds ∧ row.permission = permission := by
  simp [Db.permissionsIn, and_assoc]

theorem le_maxPriority {roles : List RoleRow} {role : RoleRow} (hmem : role ∈ roles) :
    role.priority ≤ maxPriority roles := by
  have hpriority : role.priority ∈ roles.map (·.priority) := List.mem_map_of_mem hmem
  unfold maxPriority
  cases hmax : (roles.map (·.priority)).max? with
  | none => simp [List.max?_eq_none_iff.mp hmax] at hpriority
  | some top => exact (List.max?_eq_some_iff.mp hmax).2 _ hpriority

/-- Without roles the maximum is the default; otherwise some role attains it. -/
theorem maxPriority_cases (roles : List RoleRow) :
    (roles = [] ∧ maxPriority roles = 0) ∨
      ∃ role ∈ roles, role.priority = maxPriority roles := by
  unfold maxPriority
  cases hmax : (roles.map (·.priority)).max? with
  | none =>
      left
      simpa using hmax
  | some top =>
      right
      simpa using (List.max?_eq_some_iff.mp hmax).1

theorem UserPermissions.has_iff {perms : UserPermissions} {permission : String} :
    perms.has permission = true ↔ admin ∈ perms.effective ∨ permission ∈ perms.effective := by
  simp [UserPermissions.has]

/-- Some permission needs some role. -/
theorem has_userPermissions_iff {db : Db} {publicKey permission : String} :
    (db.userPermissions publicKey).has permission = true ↔
      ∃ role ∈ db.rolesOf publicKey, ∃ row ∈ db.rolePermissions.rows,
        row.roleId = role.id ∧ (row.permission = admin ∨ row.permission = permission) := by
  rw [UserPermissions.has_iff]
  simp only [Db.userPermissions, mem_permissionsIn, List.mem_map]
  constructor
  · rintro (⟨row, hrow, ⟨role, hrole, hid⟩, hperm⟩ | ⟨row, hrow, ⟨role, hrole, hid⟩, hperm⟩)
    · exact ⟨role, hrole, row, hrow, hid.symm, .inl hperm⟩
    · exact ⟨role, hrole, row, hrow, hid.symm, .inr hperm⟩
  · rintro ⟨role, hrole, row, hrow, hid, hperm | hperm⟩
    · exact .inl ⟨row, hrow, ⟨role, hrole, hid.symm⟩, hperm⟩
    · exact .inr ⟨row, hrow, ⟨role, hrole, hid.symm⟩, hperm⟩

/-! ## Statements on the role tables -/

/-- `INSERT INTO roles`. -/
def insertRole (row : RoleRow) (db : Db) : Except SqlError Db :=
  match db.roles.insert? row with
  | none => .error (.primaryKey "roles.id")
  | some roles =>
      if db.roles.rows.any (·.name = row.name) then .error (.unique "roles.name")
      else .ok { db with roles := roles }

/-- `INSERT INTO role_permissions`. -/
def insertRolePermission (row : RolePermissionRow) (db : Db) : Except SqlError Db :=
  match db.rolePermissions.insert? row with
  | none => .error (.primaryKey "role_permissions.role_id, role_permissions.permission")
  | some rolePermissions =>
      if db.roles.has row.roleId then .ok { db with rolePermissions := rolePermissions }
      else .error .foreignKey

/-- `UPDATE roles SET priority = ? WHERE id = ?`. -/
def updateRolePriority (id : String) (priority : Int) (db : Db) : Except SqlError Db :=
  .ok { db with
    roles := db.roles.update (·.id = id) (fun row => { row with priority := priority })
      fun _ => rfl }

/-- `UPDATE roles SET name = ? WHERE id = ?`. -/
def updateRoleName (id name : String) (db : Db) : Except SqlError Db :=
  if db.roles.has id ∧ db.roles.rows.any (fun row => row.id ≠ id ∧ row.name = name) then
    .error (.unique "roles.name")
  else
    .ok { db with
      roles := db.roles.update (·.id = id) (fun row => { row with name := name }) fun _ => rfl }

/-- `UPDATE roles SET display_separately = ? WHERE id = ?`. -/
def updateRoleDisplay (id : String) (flag : Bool) (db : Db) : Except SqlError Db :=
  .ok { db with
    roles := db.roles.update (·.id = id) (fun row => { row with displaySeparately := flag })
      fun _ => rfl }

/-- `DELETE FROM role_permissions WHERE role_id = ?`. -/
def deleteRolePermissions (roleId : String) (db : Db) : Except SqlError Db :=
  .ok { db with rolePermissions := db.rolePermissions.keep (·.roleId ≠ roleId) }

/-- `DELETE FROM user_roles WHERE role_id = ?`. -/
def deleteRoleMembers (roleId : String) (db : Db) : Except SqlError Db :=
  .ok { db with userRoles := db.userRoles.keep (·.roleId ≠ roleId) }

/-- `DELETE FROM roles WHERE id = ?`, refused while rows refer to the role. -/
def deleteRoleRow (id : String) (db : Db) : Except SqlError Db :=
  if db.roles.has id ∧ (db.userRoles.rows.any (·.roleId = id) ∨
      db.rolePermissions.rows.any (·.roleId = id)) then
    .error .foreignKey
  else .ok { db with roles := db.roles.keep (·.id ≠ id) }

/-- `INSERT INTO user_roles`. -/
def insertUserRole (row : UserRoleRow) (db : Db) : Except SqlError Db :=
  match db.userRoles.insert? row with
  | none => .error (.primaryKey "user_roles.user_public_key, user_roles.role_id")
  | some userRoles =>
      if db.users.has row.userPublicKey ∧ db.roles.has row.roleId then
        .ok { db with userRoles := userRoles }
      else .error .foreignKey

/-- `INSERT OR IGNORE INTO user_roles`: a taken key is ignored, a dangling
reference is not. -/
def insertUserRoleOrIgnore (row : UserRoleRow) (db : Db) : Except SqlError Db :=
  if db.userRoles.has row.key then .ok db else insertUserRole row db

/-- `DELETE FROM user_roles WHERE user_public_key = ? AND role_id = ?`. -/
def deleteUserRole (publicKey roleId : String) (db : Db) : Except SqlError Db :=
  .ok { db with
    userRoles := db.userRoles.keep fun row =>
      ¬ (row.userPublicKey = publicKey ∧ row.roleId = roleId) }

/-! ## Handlers -/

structure CreateRoleRequest where
  name : String
  permissions : List String
  priority : Int
  displaySeparately : Bool := false

structure UpdateRoleRequest where
  name : Option String := none
  permissions : Option (List String) := none
  priority : Option Int := none
  displaySeparately : Option Bool := none

structure RoleResponse where
  id : String
  name : String
  permissions : List String
  priority : Int
  displaySeparately : Bool
  createdAt : Int
  deriving DecidableEq

def requireNotBuiltin (roleId : String) : Except ApiError Unit :=
  if roleId = "builtin-owner" ∨ roleId = "builtin-everyone" then
    .error ⟨.forbidden, "Cannot modify built-in roles"⟩
  else .ok ()

def getRole (roleId : String) : Handler RoleRow := do
  let role ← fetch (·.roles.find? roleId)
  .ofExcept (role.elim (.error ⟨.notFound, "Role not found"⟩) .ok)

/-- `SELECT permission FROM role_permissions WHERE role_id = ?`. -/
def Db.rolePermissionsOf (db : Db) (roleId : String) : List String :=
  (db.rolePermissions.rows.filter (·.roleId = roleId)).map (·.permission)

/-- `SELECT user_public_key FROM user_roles WHERE role_id = ?`. -/
def Db.roleMembers (db : Db) (roleId : String) : List String :=
  (db.userRoles.rows.filter (·.roleId = roleId)).map (·.userPublicKey)

/-- `create_role`. The fresh identifier and the clock reading are arguments. -/
def createRole (user id : String) (now : Int) (req : CreateRoleRequest) :
    Handler (StatusCode × RoleResponse) := do
  let perms ← userPermissions user
  .ofExcept (perms.require manageRoles)
  .ensure (¬ req.priority ≥ perms.maxPriority)
    ⟨.forbidden, "Cannot create role with priority >= your own"⟩
  executeOr (fun e =>
      if e.mentionsUnique then ⟨.conflict, "Role '" ++ req.name ++ "' already exists"⟩
      else dbError e)
    (insertRole ⟨id, req.name, req.priority, req.displaySeparately, now⟩)
  .each req.permissions fun perm => execute (insertRolePermission ⟨id, perm⟩)
  pure (.created,
    ⟨id, req.name, req.permissions, req.priority, req.displaySeparately, now⟩)

/-- `update_role`. The priority is written before the other fields are looked
at, so a later failure leaves it changed. -/
def updateRole (user roleId : String) (req : UpdateRoleRequest) : Handler RoleResponse := do
  .ofExcept (requireNotBuiltin roleId)
  let perms ← userPermissions user
  .ofExcept (perms.require manageRoles)
  let existing ← getRole roleId
  .ensure (¬ existing.priority ≥ perms.maxPriority)
    ⟨.forbidden, "Cannot modify role with priority >= your own"⟩
  .whenSome req.priority fun newPriority => do
    .ensure (¬ newPriority ≥ perms.maxPriority)
      ⟨.forbidden, "Cannot set priority >= your own"⟩
    execute (updateRolePriority roleId newPriority)
  .whenSome req.name fun name => execute (updateRoleName roleId name)
  .whenSome req.permissions fun newPerms => do
    execute (deleteRolePermissions roleId)
    .each newPerms fun perm => execute (insertRolePermission ⟨roleId, perm⟩)
  .whenSome req.displaySeparately fun flag => execute (updateRoleDisplay roleId flag)
  let updated ← getRole roleId
  let rolePerms ← fetch (·.rolePermissionsOf roleId)
  pure ⟨updated.id, updated.name, rolePerms, updated.priority, updated.displaySeparately,
    updated.createdAt⟩

/-- `delete_role`: members, permissions and the role itself go in three
statements. -/
def deleteRole (user roleId : String) : Handler StatusCode := do
  .ofExcept (requireNotBuiltin roleId)
  let perms ← userPermissions user
  .ofExcept (perms.require manageRoles)
  let existing ← getRole roleId
  .ensure (¬ existing.priority ≥ perms.maxPriority)
    ⟨.forbidden, "Cannot delete role with priority >= your own"⟩
  execute (deleteRoleMembers roleId)
  execute (deleteRolePermissions roleId)
  execute (deleteRoleRow roleId)
  pure .noContent

/-- `assign_role`. Built-in roles are not excluded here. -/
def assignRole (user publicKey roleId : String) (now : Int) : Handler StatusCode := do
  let perms ← userPermissions user
  .ofExcept (perms.require manageRoles)
  let role ← getRole roleId
  .ensure (¬ role.priority ≥ perms.maxPriority)
    ⟨.forbidden, "Cannot assign role with priority >= your own"⟩
  execute (insertUserRoleOrIgnore ⟨publicKey, roleId, now⟩)
  pure .ok

/-- `remove_role`, with the guard for the last owner. -/
def removeRole (user publicKey roleId : String) : Handler StatusCode := do
  .ensure (roleId ≠ "builtin-everyone") ⟨.forbidden, "Cannot remove @everyone role"⟩
  let perms ← userPermissions user
  .ofExcept (perms.require manageRoles)
  let role ← getRole roleId
  .ensure (¬ role.priority ≥ perms.maxPriority)
    ⟨.forbidden, "Cannot remove role with priority >= your own"⟩
  .when (roleId = "builtin-owner") do
    let ownerCount ← fetch fun db =>
      (db.userRoles.rows.filter (·.roleId = "builtin-owner")).length
    .ensure (¬ ownerCount ≤ 1) ⟨.forbidden, "Cannot remove the last owner"⟩
  execute (deleteUserRole publicKey roleId)
  pure .ok

/-- The five requests that change the role tables, with the values the server
supplies. -/
inductive RoleRequest where
  | create (id : String) (now : Int) (req : CreateRoleRequest)
  | update (roleId : String) (req : UpdateRoleRequest)
  | delete (roleId : String)
  | assign (publicKey roleId : String) (now : Int)
  | remove (publicKey roleId : String)

/-- The handler of a request issued by an authenticated user; the response body
is dropped. -/
def RoleRequest.handler (user : String) : RoleRequest → Handler Unit
  | .create id now req => do let _ ← createRole user id now req
  | .update roleId req => do let _ ← updateRole user roleId req
  | .delete roleId => do let _ ← deleteRole user roleId
  | .assign publicKey roleId now => do let _ ← assignRole user publicKey roleId now
  | .remove publicKey roleId => do let _ ← removeRole user publicKey roleId

end Voxply.Hub
