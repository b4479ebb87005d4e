/-
# Editing a role as a whole

A role and its permissions are written by several statements: `create_role` inserts the role
and then one permission after the other, `update_role` writes the priority, the name, the
permissions and the flag, each when it comes to it.  A permission that is listed twice, or
a name that another role has, is refused by the store when the statements before it have
been executed.
-/

import Voxply.Hub.Roles
import Voxply.Math.Atomic

namespace Voxply.Hub

open Voxply.Math

/-! ## What an edit is to do -/

/-- The two requests that write roles with their permissions, with the values the server
supplies. -/
inductive RoleEdit where
  | create (id : String) (now : Int) (req : CreateRoleRequest)
  | update (roleId : String) (req : UpdateRoleRequest)

def RoleEdit.roleId : RoleEdit → String
  | .create id _ _ => id
  | .update roleId _ => roleId

/-- The permissions that are asked for, if any are. -/
def RoleEdit.permissions : RoleEdit → Option (List String)
  | .create _ _ req => some req.permissions
  | .update _ req => req.permissions

def RoleEdit.handler (user : String) : RoleEdit → Handler RoleResponse
  | .create id now req => do
      let created ← createRole user id now req
      pure created.2
  | .update roleId req => updateRole user roleId req

/-- Neither of the two tables has changed. -/
def SameRoles (s t : AppState) : Prop :=
  t.db.roles.SameRows s.db.roles ∧ t.db.rolePermissions.SameRows s.db.rolePermissions

/-- The permissions of the role are those that are asked for, and as they were if none are. -/
def HasRequested (s : AppState) (edit : RoleEdit) (t : AppState) : Prop :=
  ∀ permission, permission ∈ t.db.rolePermissionsOf edit.roleId ↔
    permission ∈ edit.permissions.getD (s.db.rolePermissionsOf edit.roleId)

/-- An error leaves the roles and their permissions as they were, and otherwise the role has
the permissions that are asked for. -/
def EditsWhole (user : String) (edit : RoleEdit) (s : AppState) : Prop :=
  (edit.handler user).AllOrNothing (SameRoles s) (fun _ t => HasRequested s edit t) s

/-- Permissions are permissions of roles: a foreign key. -/
def Db.PermissionsHaveRoles (db : Db) : Prop :=
  ∀ row ∈ db.rolePermissions.rows, db.roles.has row.roleId = true

/-- The caller may create the role, and its row can be inserted. -/
def CreateAccepted (user id : String) (now : Int) (req : CreateRoleRequest) (s : AppState) : Prop :=
  (s.db.userPermissions user).require manageRoles = .ok () ∧
    req.priority < (s.db.userPermissions user).maxPriority ∧
    (insertRole ⟨id, req.name, req.priority, req.displaySeparately, now⟩ s.db).isOk = true

/-- The caller may update the role in this way. -/
def UpdateAccepted (user roleId : String) (req : UpdateRoleRequest) (role : RoleRow)
    (s : AppState) : Prop :=
  requireNotBuiltin roleId = .ok () ∧
    (s.db.userPermissions user).require manageRoles = .ok () ∧
    s.db.roles.find? roleId = some role ∧
    role.priority < (s.db.userPermissions user).maxPriority ∧
    ∀ priority ∈ req.priority, priority < (s.db.userPermissions user).maxPriority

/-- Another role has the name. -/
def Db.RoleNameTaken (db : Db) (roleId name : String) : Prop :=
  ∃ other ∈ db.roles.rows, other.id ≠ roleId ∧ other.name = name

/-- If the name is taken, the priority is the one that the role has; if a permission is listed
twice, so are the name and the permissions before it. -/
structure UpdateRoleRequest.Repeats (req : UpdateRoleRequest) (role : RoleRow)
    (db : Db) : Prop where
  name : ∀ name ∈ req.name, db.RoleNameTaken role.id name → ∀ p ∈ req.priority, p = role.priority
  permissions : ∀ perms ∈ req.permissions, ¬ perms.Nodup →
    (∀ name ∈ req.name, ¬ db.RoleNameTaken role.id name) →
      (∀ p ∈ req.priority, p = role.priority) ∧ (∀ name ∈ req.name, name = role.name) ∧
        ∀ perm, perm ∈ untilRepeated [] perms ↔ perm ∈ db.rolePermissionsOf role.id

/-- No statement is refused after others have changed something. -/
def RoleEdit.Safe (user : String) (s : AppState) : RoleEdit → Prop
  | .create id now req => CreateAccepted user id now req s → req.permissions.Nodup
  | .update roleId req => ∀ role, UpdateAccepted user roleId req role s → req.Repeats role s.db

/-! ## Inserting the permissions -/

section Permissions

variable {s : AppState} {roleId : String} {perms : List String}

theorem row_mem_rolePermissionsOf {db : Db} {perm : String} :
    perm ∈ db.rolePermissionsOf roleId ↔ ⟨roleId, perm⟩ ∈ db.rolePermissions.rows := by
  simp only [Db.rolePermissionsOf, List.mem_map, List.mem_filter, decide_eq_true_eq]
  constructor
  · rintro ⟨row, ⟨hmem, rfl⟩, rfl⟩
    exact hmem
  · exact fun h => ⟨_, ⟨h, rfl⟩, rfl⟩

/-- The statement for each of them. -/
def insertPermissions (roleId : String) (perms : List String) : Handler Unit :=
  .each perms fun perm => execute (insertRolePermission ⟨roleId, perm⟩)

/-- The store with another table of permissions. -/
def AppState.withPermissions (s : AppState)
    (table : Table RolePermissionRow RolePermissionRow.key) : AppState :=
  s.withDb { s.db with rolePermissions := table }

/-- Permissions that are new and listed once are all inserted. -/
theorem run_insertPermissions_of_nodup (hrole : s.db.roles.has roleId = true)
    (hnodup : perms.Nodup) (hnew : ∀ perm ∈ perms, perm ∉ s.db.rolePermissionsOf roleId) :
    ∃ table, table.rows = s.db.rolePermissions.rows ++ perms.map (⟨roleId, ·⟩) ∧
      (insertPermissions roleId perms).run s = (.ok ⟨⟩, s.withPermissions table) := by
  induction perms generalizing s with
  | nil => exact ⟨s.db.rolePermissions, by simp, rfl⟩
  | cons perm rest ih =>
      rw [List.nodup_cons] at hnodup
      have hfree : s.db.rolePermissions.has (RolePermissionRow.key ⟨roleId, perm⟩) = false := by
        rw [Table.has_eq_false_iff]
        intro row hrow hkey
        apply hnew perm List.mem_cons_self
        rw [row_mem_rolePermissionsOf]
        obtain ⟨hid, hperm⟩ := Prod.ext_iff.mp hkey
        rw [show (⟨roleId, perm⟩ : RolePermissionRow) = row from congrArg₂ _ hid.symm hperm.symm]
        exact hrow
      obtain ⟨table, hinsert, hrows⟩ := Table.insert?_of_free hfree
      have hfirst : (execute (insertRolePermission ⟨roleId, perm⟩)).run s =
          (.ok ⟨⟩, s.withPermissions table) := by
        apply run_execute_of_ok
        rw [insertRolePermission, hinsert]
        exact if_pos hrole
      obtain ⟨table', hrows', hrun⟩ := ih (s := s.withPermissions table) hrole hnodup.2 (by
        intro other hother hmem
        rw [row_mem_rolePermissionsOf] at hmem
        have hmem' : (⟨roleId, other⟩ : RolePermissionRow) ∈ table.rows := hmem
        rw [hrows, List.mem_append, List.mem_singleton] at hmem'
        rcases hmem' with hold | hsame
        · exact hnew other (List.mem_cons_of_mem perm hother) (row_mem_rolePermissionsOf.mpr hold)
        · cases hsame
          exact hnodup.1 hother)
      refine ⟨table', ?_, ?_⟩
      · rw [hrows', show (s.withPermissions table).db.rolePermissions.rows = table.rows from rfl,
          hrows, List.map_cons, List.append_assoc, List.singleton_append]
      · rw [insertPermissions, Prog.run_each_cons, Prog.run_bind_of_ok hfirst]
        exact hrun

/-- Otherwise the first one that is listed again is refused. -/
theorem run_insertPermissions_of_repeated (hrole : s.db.roles.has roleId = true)
    (hrepeated : ¬ perms.Nodup) (hnew : ∀ perm ∈ perms, perm ∉ s.db.rolePermissionsOf roleId) :
    ∃ table e, table.rows = s.db.rolePermissions.rows ++
        (untilRepeated [] perms).map (⟨roleId, ·⟩) ∧
      (insertPermissions roleId perms).run s = (.error e, s.withPermissions table) := by
  obtain ⟨first, perm, rest, rfl, hfirst, hagain⟩ := exists_first_repeated hrepeated
  rw [untilRepeated_append hfirst (fun _ _ => List.not_mem_nil) (.inl hagain)]
  obtain ⟨table, hrows, hrun⟩ := run_insertPermissions_of_nodup hrole hfirst fun other hother =>
    hnew other (List.mem_append_left _ hother)
  have htaken : table.insert? ⟨roleId, perm⟩ = none := by
    rw [Table.insert?_eq_none_iff, hrows]
    exact ⟨_, List.mem_append_right _ (List.mem_map_of_mem hagain), rfl⟩
  have hrefused : (execute (insertRolePermission ⟨roleId, perm⟩)).run (s.withPermissions table) =
      (.error (dbError (.primaryKey "role_permissions.role_id, role_permissions.permission")),
        s.withPermissions table) := by
    apply run_execute_of_error
    rw [insertRolePermission, show (s.withPermissions table).db.rolePermissions = table from rfl,
      htaken]
  exact ⟨table, _, hrows, Prog.run_each_of_error hrun hrefused⟩

end Permissions

/-! ## Creating a role -/

section Create

variable {s : AppState} {user id : String} {now : Int} {req : CreateRoleRequest}

theorem SameRoles.refl (s : AppState) : SameRoles s s :=
  ⟨Table.SameRows.refl _, Table.SameRows.refl _⟩

/-- What the insertion of a role does. -/
theorem rows_of_insertRole {row : RoleRow} {db db' : Db} (h : insertRole row db = .ok db') :
    (∀ old ∈ db.roles.rows, old.id ≠ row.id) ∧ db'.roles.rows = db.roles.rows ++ [row] ∧
      db'.rolePermissions = db.rolePermissions := by
  unfold insertRole at h
  cases hinsert : db.roles.insert? row with
  | none =>
      rw [hinsert] at h
      cases h
  | some roles =>
      rw [hinsert] at h
      dsimp only at h
      split_ifs at h
      cases h
      obtain ⟨hfree, hrows⟩ := Table.insert?_eq_some_iff.mp hinsert
      exact ⟨hfree, hrows, rfl⟩

/-- A role is created as a whole unless a permission is listed twice. -/
theorem createRole_whole_iff (hroles : s.db.PermissionsHaveRoles) :
    EditsWhole user (.create id now req) s ↔ (RoleEdit.create id now req).Safe user s := by
  have hsafe : (RoleEdit.create id now req).Safe user s ↔
      (CreateAccepted user id now req s → req.permissions.Nodup) := Iff.rfl
  rw [hsafe, CreateAccepted, EditsWhole, RoleEdit.handler, Prog.allOrNothing_map, createRole,
    Prog.allOrNothing_bind_of_ok (run_userPermissions user s),
    Prog.allOrNothing_ofExcept_bind (SameRoles.refl s),
    Prog.allOrNothing_ensure_bind (SameRoles.refl s), and_imp, and_imp, ge_iff_le, not_le]
  apply forall_congr'
  intro _
  apply forall_congr'
  intro _
  cases hinsert : insertRole ⟨id, req.name, req.priority, req.displaySeparately, now⟩ s.db with
  | error e =>
      rw [Prog.allOrNothing_bind_of_error (run_executeOr_of_error hinsert)]
      exact iff_of_true (SameRoles.refl s) fun h => by cases h
  | ok db =>
      obtain ⟨hfree, hrows, hpermissions⟩ := rows_of_insertRole hinsert
      rw [Prog.allOrNothing_bind_of_ok (run_executeOr_of_ok hinsert)]
      have hrole : (s.withDb db).db.roles.has id = true := by
        rw [Table.has_iff]
        exact ⟨_, hrows ▸ List.mem_append_right _ (List.mem_singleton_self _), rfl⟩
      have hnew (perm : String) : perm ∉ (s.withDb db).db.rolePermissionsOf id := by
        rw [row_mem_rolePermissionsOf, withDb_db, hpermissions]
        intro hmem
        obtain ⟨old, hold, hid⟩ := Table.has_iff.mp (hroles _ hmem)
        exact hfree old hold hid
      by_cases hnodup : req.permissions.Nodup
      · obtain ⟨table, htable, hrun⟩ :=
          run_insertPermissions_of_nodup hrole hnodup fun p _ => hnew p
        apply iff_of_true _ fun _ => hnodup
        apply (Prog.allOrNothing_bind_of_ok hrun).mpr
        apply (Prog.allOrNothing_iff_of_ok (Prog.run_pure _ _)).mpr
        intro perm
        show perm ∈ ((s.withDb db).withPermissions table).db.rolePermissionsOf id ↔
          perm ∈ req.permissions
        have hold := hnew perm
        rw [row_mem_rolePermissionsOf] at hold
        rw [row_mem_rolePermissionsOf,
          show ((s.withDb db).withPermissions table).db.rolePermissions =
          table from rfl, htable, List.mem_append, or_iff_right hold]
        simp
      · obtain ⟨table, e, -, hrun⟩ :=
          run_insertPermissions_of_repeated hrole hnodup fun p _ => hnew p
        refine iff_of_false (fun hwhole => ?_) fun h => hnodup (h rfl)
        have hsame : SameRoles s ((s.withDb db).withPermissions table) :=
          (Prog.allOrNothing_bind_of_error hrun).mp hwhole
        have hthere : (⟨id, req.name, req.priority, req.displaySeparately, now⟩ : RoleRow) ∈
            ((s.withDb db).withPermissions table).db.roles.rows := by
          show _ ∈ db.roles.rows
          rw [hrows]
          exact List.mem_append_right _ (List.mem_singleton_self _)
        exact hfree _ ((hsame.1 _).mp hthere) rfl

end Create

/-! ## Updating a role -/

section Update

variable {s : AppState} {user roleId : String} {req : UpdateRoleRequest} {role : RoleRow}

def AppState.withRoles (s : AppState) (table : Table RoleRow RoleRow.id) : AppState :=
  s.withDb { s.db with roles := table }

/-- The roles after the first statements. -/
def rolesWritten (roleId : String) (priority : Option Int) (name : Option String)
    (table : Table RoleRow RoleRow.id) : Table RoleRow RoleRow.id :=
  table.update (·.id = roleId)
    (fun row => { row with priority := priority.getD row.priority, name := name.getD row.name })
    fun _ => rfl

theorem rolesWritten_none (table : Table RoleRow RoleRow.id) :
    rolesWritten roleId none none table = table :=
  Table.update_eq_self _ _ fun _ _ _ => rfl

theorem has_rolesWritten {priority : Option Int} {name : Option String}
    {table : Table RoleRow RoleRow.id} (h : table.has roleId = true) :
    (rolesWritten roleId priority name table).has roleId = true := by
  obtain ⟨row, hrow, hid⟩ := Table.has_iff.mp h
  rw [Table.has_iff]
  refine ⟨_, List.mem_map_of_mem hrow, ?_⟩
  rw [if_pos (decide_eq_true hid)]
  exact hid

/-- The role keeps its row exactly if what is written is what it has. -/
theorem rolesWritten_same_iff (priority : Option Int) (name : Option String)
    (hrole : s.db.roles.find? roleId = some role) :
    (rolesWritten roleId priority name s.db.roles).SameRows s.db.roles ↔
      (∀ p ∈ priority, p = role.priority) ∧ ∀ n ∈ name, n = role.name := by
  obtain ⟨hmem, hid⟩ := Table.find?_eq_some_iff.mp hrole
  have hrow : (∀ row ∈ s.db.roles.rows, decide (row.id = roleId) = true →
      ({ row with priority := priority.getD row.priority, name := name.getD row.name } : RoleRow) =
        row) ↔
      ({ role with
        priority := priority.getD role.priority
        name := name.getD role.name } : RoleRow) = role := by
    constructor
    · exact fun h => h role hmem (decide_eq_true hid)
    · intro h row hrow hrowId
      rw [s.db.roles.eq_of_key_eq hrow hmem ((of_decide_eq_true hrowId).trans hid.symm)]
      exact h
  rw [rolesWritten, Table.update_sameRows_iff, hrow]
  obtain ⟨id, oldName, oldPriority, flag, createdAt⟩ := role
  cases priority <;> cases name <;> simp [and_comm]

/-- The statement for the priority, once it has been checked. -/
theorem run_writeRolePriority {limit : Int} (hbelow : ∀ p ∈ req.priority, p < limit) :
    (Prog.whenSome req.priority fun newPriority => do
      .ensure (¬ newPriority ≥ limit) ⟨.forbidden, "Cannot set priority >= your own"⟩
      execute (updateRolePriority roleId newPriority)).run s =
      (.ok (), s.withRoles (rolesWritten roleId req.priority none s.db.roles)) := by
  cases hpriority : req.priority with
  | none =>
      rw [rolesWritten_none]
      rfl
  | some p =>
      have hp : ¬ p ≥ limit := not_le.mpr (hbelow p hpriority)
      exact Prog.run_bind_of_ok (Prog.run_ensure_of_pos hp _ s)

/-- A priority that is not below the caller's own is refused. -/
theorem run_writeRolePriority_of_not_below (roleId : String) (s : AppState) {limit : Int}
    (h : ¬ ∀ p ∈ req.priority, p < limit) : ∃ e, (Prog.whenSome req.priority fun newPriority => do
      .ensure (¬ newPriority ≥ limit) ⟨.forbidden, "Cannot set priority >= your own"⟩
      execute (updateRolePriority roleId newPriority)).run s = (.error e, s) := by
  push Not at h
  obtain ⟨p, hpriority, hp⟩ := h
  rw [Option.mem_def.mp hpriority]
  exact ⟨_, Prog.run_bind_of_error (Prog.run_ensure_of_neg (not_not_intro hp) _ s)⟩

/-- The names of the other roles are as they were. -/
theorem roleNameTaken_iff (priority : Option Int) (hrole : s.db.roles.has roleId = true)
    (name : String) :
    (rolesWritten roleId priority none s.db.roles).has roleId ∧
      (rolesWritten roleId priority none s.db.roles).rows.any
        (fun row => row.id ≠ roleId ∧ row.name = name) ↔ s.db.RoleNameTaken roleId name := by
  have hany : (rolesWritten roleId priority none s.db.roles).rows.any
      (fun row => row.id ≠ roleId ∧ row.name = name) =
        s.db.roles.rows.any fun row => row.id ≠ roleId ∧ row.name = name := by
    rw [rolesWritten, Table.rows_update, List.any_map]
    congr 1
    funext row
    by_cases hid : row.id = roleId
    · simp [hid]
    · simp [hid]
  rw [hany, and_iff_right (has_rolesWritten hrole), Db.RoleNameTaken]
  simp

/-- The statement for the name, after the one for the priority. -/
theorem run_writeRoleName (hrole : s.db.roles.has roleId = true)
    (hfree : ∀ name ∈ req.name, ¬ s.db.RoleNameTaken roleId name) :
    (Prog.whenSome req.name fun name => execute (updateRoleName roleId name)).run
        (s.withRoles (rolesWritten roleId req.priority none s.db.roles)) =
      (.ok (), s.withRoles (rolesWritten roleId req.priority req.name s.db.roles)) := by
  cases hname : req.name with
  | none => rfl
  | some name =>
      apply run_execute_of_ok
      have hnot := (roleNameTaken_iff req.priority hrole name).not.mpr
        (hfree name hname)
      refine (if_neg hnot).trans ?_
      have htable : (rolesWritten roleId req.priority none s.db.roles).update (·.id = roleId)
          (fun row => { row with name := name }) (fun _ => rfl) =
            rolesWritten roleId req.priority (some name) s.db.roles := by
        apply Table.ext
        simp only [rolesWritten, Table.rows_update, List.map_map]
        congr 1
        funext row
        by_cases hid : row.id = roleId
        · simp [hid]
        · simp [hid]
      rw [← htable]
      rfl

theorem run_writeRoleName_of_taken (hrole : s.db.roles.has roleId = true)
    (htaken : ¬ ∀ name ∈ req.name, ¬ s.db.RoleNameTaken roleId name) :
    ∃ e, (Prog.whenSome req.name fun name => execute (updateRoleName roleId name)).run
        (s.withRoles (rolesWritten roleId req.priority none s.db.roles)) =
      (.error e, s.withRoles (rolesWritten roleId req.priority none s.db.roles)) := by
  push Not at htaken
  obtain ⟨name, hname, htaken⟩ := htaken
  rw [Option.mem_def.mp hname]
  refine ⟨_, run_execute_of_error (e := .unique "roles.name") ?_⟩
  rw [updateRoleName]
  exact if_pos ((roleNameTaken_iff _ hrole name).mpr htaken)

/-- The statements for the permissions: the old ones go first. -/
def replacePermissions (roleId : String) (perms : List String) : Handler Unit := do
  execute (deleteRolePermissions roleId)
  insertPermissions roleId perms

/-- The rows of the other roles and the given permissions of this one. -/
def permissionsWritten (roleId : String) (perms : List String)
    (table : Table RolePermissionRow RolePermissionRow.key) : List RolePermissionRow :=
  (table.keep (·.roleId ≠ roleId)).rows ++ perms.map (⟨roleId, ·⟩)

theorem run_replacePermissions (hrole : s.db.roles.has roleId = true) (perms : List String) :
    ∃ table, table.rows = permissionsWritten roleId (untilRepeated [] perms) s.db.rolePermissions ∧
      (perms.Nodup → untilRepeated [] perms = perms ∧
        (replacePermissions roleId perms).run s = (.ok ⟨⟩, s.withPermissions table)) ∧
      (¬ perms.Nodup →
        ∃ e, (replacePermissions roleId perms).run s = (.error e, s.withPermissions table)) := by
  let cleared := s.withPermissions (s.db.rolePermissions.keep (·.roleId ≠ roleId))
  have hdelete : (execute (deleteRolePermissions roleId)).run s = (.ok (), cleared) := rfl
  have hnew : ∀ perm ∈ perms, perm ∉ cleared.db.rolePermissionsOf roleId := by
    intro perm _ hmem
    rw [row_mem_rolePermissionsOf] at hmem
    have hkept : _ ∈ s.db.rolePermissions.rows.filter _ := hmem
    exact of_decide_eq_true (List.mem_filter.mp hkept).2 rfl
  by_cases hnodup : perms.Nodup
  · obtain ⟨table, hrows, hrun⟩ := run_insertPermissions_of_nodup (s := cleared) hrole hnodup hnew
    rw [untilRepeated_of_nodup hnodup fun _ _ => List.not_mem_nil]
    refine ⟨table, hrows, fun _ => ⟨rfl, ?_⟩, fun h => absurd hnodup h⟩
    exact (Prog.run_bind_of_ok hdelete).trans hrun
  · obtain ⟨table, e, hrows, hrun⟩ :=
      run_insertPermissions_of_repeated (s := cleared) hrole hnodup hnew
    refine ⟨table, hrows, fun h => absurd h hnodup, fun _ => ⟨e, ?_⟩⟩
    exact (Prog.run_bind_of_ok hdelete).trans hrun

theorem mem_permissionsWritten {perms : List String} {perm : String}
    {table : Table RolePermissionRow RolePermissionRow.key} :
    ⟨roleId, perm⟩ ∈ permissionsWritten roleId perms table ↔ perm ∈ perms := by
  simp [permissionsWritten]

/-- The permissions are the same set of rows exactly if those of the role are. -/
theorem permissionsWritten_same_iff {perms : List String}
    {table : Table RolePermissionRow RolePermissionRow.key}
    (hrows : table.rows = permissionsWritten roleId perms s.db.rolePermissions) :
    table.SameRows s.db.rolePermissions ↔
      ∀ perm, perm ∈ perms ↔ perm ∈ s.db.rolePermissionsOf roleId := by
  constructor
  · intro hsame perm
    rw [row_mem_rolePermissionsOf, ← hsame, hrows, mem_permissionsWritten]
  · intro hperms row
    obtain ⟨id, perm⟩ := row
    by_cases hid : id = roleId
    · subst hid
      rw [hrows, mem_permissionsWritten, hperms, row_mem_rolePermissionsOf]
    · rw [hrows, permissionsWritten, List.mem_append, Table.rows_keep, List.mem_filter]
      simp [hid, Ne.symm hid]

/-- The end of the request: the flag and the answer. -/
def finishRoleUpdate (roleId : String) (displaySeparately : Option Bool) :
    Handler RoleResponse := do
  .whenSome displaySeparately fun flag => execute (updateRoleDisplay roleId flag)
  let updated ← getRole roleId
  let rolePerms ← fetch (·.rolePermissionsOf roleId)
  pure ⟨updated.id, updated.name, rolePerms, updated.priority, updated.displaySeparately,
    updated.createdAt⟩

/-- It succeeds and changes no permission. -/
theorem run_finishRoleUpdate (hrole : s.db.roles.has roleId = true) (flag : Option Bool) :
    ∃ answer t, (finishRoleUpdate roleId flag).run s = (.ok answer, t) ∧
      t.db.rolePermissions = s.db.rolePermissions := by
  have hflag : ∃ t, (Prog.whenSome flag
      (fun flag => execute (updateRoleDisplay roleId flag))).run s = (.ok ⟨⟩, t) ∧
        t.db.roles.has roleId = true ∧ t.db.rolePermissions = s.db.rolePermissions := by
    cases flag with
    | none => exact ⟨s, rfl, hrole, rfl⟩
    | some flag =>
        refine ⟨_, rfl, ?_, rfl⟩
        obtain ⟨row, hrow, hid⟩ := Table.has_iff.mp hrole
        rw [Table.has_iff]
        refine ⟨_, List.mem_map_of_mem hrow, ?_⟩
        rw [if_pos (decide_eq_true hid)]
        exact hid
  obtain ⟨t, hrun, hthere, hpermissions⟩ := hflag
  obtain ⟨row, hrow⟩ := Table.exists_find?_of_has hthere
  have hget : (getRole roleId).run t = (.ok row, t) := by
    rw [getRole, Prog.run_bind_of_ok (run_fetch _ t), hrow]
    rfl
  refine ⟨⟨row.id, row.name, t.db.rolePermissionsOf roleId, row.priority, row.displaySeparately,
    row.createdAt⟩, t, ?_, hpermissions⟩
  rw [finishRoleUpdate, Prog.run_bind_of_ok hrun, Prog.run_bind_of_ok hget]
  rfl

/-- The statements after the checks. -/
def writeRole (limit : Int) (roleId : String) (req : UpdateRoleRequest) : Handler RoleResponse := do
  .whenSome req.priority fun newPriority => do
    .ensure (¬ newPriority ≥ limit) ⟨.forbidden, "Cannot set priority >= your own"⟩
    execute (updateRolePriority roleId newPriority)
  .whenSome req.name fun name => execute (updateRoleName roleId name)
  .whenSome req.permissions (replacePermissions roleId)
  finishRoleUpdate roleId req.displaySeparately

/-- The store after the statements for the priority and the name is still another one, unless
they repeat what was there. -/
theorem sameRoles_iff {table : Table RolePermissionRow RolePermissionRow.key} {perms : List String}
    {priority : Option Int} {name : Option String} (hrole : s.db.roles.find? roleId = some role)
    (hrows : table.rows = permissionsWritten roleId perms s.db.rolePermissions) :
    SameRoles s ((s.withRoles (rolesWritten roleId priority name s.db.roles)).withPermissions
      table) ↔ (∀ p ∈ priority, p = role.priority) ∧ (∀ n ∈ name, n = role.name) ∧
        ∀ perm, perm ∈ perms ↔ perm ∈ s.db.rolePermissionsOf roleId := by
  have hpermissions : table.SameRows s.db.rolePermissions ↔ _ := permissionsWritten_same_iff hrows
  rw [← and_assoc, ← rolesWritten_same_iff _ _ hrole, ← hpermissions]
  exact Iff.rfl

/-- Once the name is stored, a permission that is listed twice is what can go wrong. -/
theorem writeRole_whole_iff_of_free {limit : Int} (hrole : s.db.roles.find? roleId = some role)
    (hbelow : ∀ p ∈ req.priority, p < limit)
    (hfree : ∀ name ∈ req.name, ¬ s.db.RoleNameTaken roleId name) :
    (writeRole limit roleId req).AllOrNothing (SameRoles s)
      (fun _ t => HasRequested s (.update roleId req) t) s ↔
    ∀ perms ∈ req.permissions, ¬ perms.Nodup →
      (∀ p ∈ req.priority, p = role.priority) ∧ (∀ name ∈ req.name, name = role.name) ∧
        ∀ perm, perm ∈ untilRepeated [] perms ↔ perm ∈ s.db.rolePermissionsOf roleId := by
  obtain ⟨hmem, hid⟩ := Table.find?_eq_some_iff.mp hrole
  have hthere : s.db.roles.has roleId = true := Table.has_iff.mpr ⟨role, hmem, hid⟩
  let named := s.withRoles (rolesWritten roleId req.priority req.name s.db.roles)
  have hnamed : named.db.roles.has roleId = true := has_rolesWritten hthere
  rw [writeRole, Prog.allOrNothing_bind_of_ok (run_writeRolePriority hbelow),
    Prog.allOrNothing_bind_of_ok (run_writeRoleName hthere hfree)]
  cases hperms : req.permissions with
  | none =>
      obtain ⟨answer, t, hrun, hsame⟩ := run_finishRoleUpdate hnamed req.displaySeparately
      rw [Prog.allOrNothing_bind_of_ok (t := named) rfl, Prog.allOrNothing_iff_of_ok hrun]
      apply iff_of_true
      · intro perm
        show perm ∈ t.db.rolePermissionsOf roleId ↔
          perm ∈ req.permissions.getD (s.db.rolePermissionsOf roleId)
        rw [hperms, Option.getD_none, row_mem_rolePermissionsOf, row_mem_rolePermissionsOf, hsame]
        rfl
      · intro perms hnone
        cases hnone
  | some perms =>
      simp only [Option.mem_some_iff, forall_eq']
      obtain ⟨table, hrows, hall, hstop⟩ := run_replacePermissions hnamed perms
      by_cases hnodup : perms.Nodup
      · obtain ⟨huntil, hreplace⟩ := hall hnodup
        obtain ⟨answer, t, hrun, hsame⟩ :=
          run_finishRoleUpdate (s := named.withPermissions table) hnamed req.displaySeparately
        have hwrite : (Prog.whenSome (some perms) (replacePermissions roleId)).run named =
            (.ok ⟨⟩, named.withPermissions table) := hreplace
        apply (Prog.allOrNothing_bind_of_ok hwrite).trans
        rw [Prog.allOrNothing_iff_of_ok hrun]
        refine iff_of_true ?_ fun h => absurd hnodup h
        intro perm
        show perm ∈ t.db.rolePermissionsOf roleId ↔
          perm ∈ req.permissions.getD (s.db.rolePermissionsOf roleId)
        rw [hperms, Option.getD_some, row_mem_rolePermissionsOf, hsame,
          show (named.withPermissions table).db.rolePermissions = table from rfl, hrows, huntil,
          mem_permissionsWritten]
      · obtain ⟨e, hreplace⟩ := hstop hnodup
        have hwrite : (Prog.whenSome (some perms) (replacePermissions roleId)).run named =
            (.error e, named.withPermissions table) := hreplace
        apply (Prog.allOrNothing_bind_of_error hwrite).trans
        rw [imp_iff_right hnodup]
        exact sameRoles_iff hrole hrows

/-- The statements of an update are all or nothing exactly if they repeat what was there before
one of them is refused. -/
theorem writeRole_whole_iff {limit : Int} (hrole : s.db.roles.find? roleId = some role)
    (hbelow : ∀ p ∈ req.priority, p < limit) :
    (writeRole limit roleId req).AllOrNothing (SameRoles s)
      (fun _ t => HasRequested s (.update roleId req) t) s ↔ req.Repeats role s.db := by
  obtain ⟨hmem, hid⟩ := Table.find?_eq_some_iff.mp hrole
  have hthere : s.db.roles.has roleId = true := Table.has_iff.mpr ⟨role, hmem, hid⟩
  have hid' : role.id = roleId := hid
  by_cases hfree : ∀ name ∈ req.name, ¬ s.db.RoleNameTaken roleId name
  · rw [writeRole_whole_iff_of_free hrole hbelow hfree]
    constructor
    · intro h
      constructor
      · intro name hname htaken
        exact absurd (hid' ▸ htaken) (hfree name hname)
      · intro perms hperms hrepeated _
        rw [hid']
        exact h perms hperms hrepeated
    · intro h perms hperms hrepeated
      rw [← hid'] at hfree ⊢
      exact h.permissions perms hperms hrepeated hfree
  · obtain ⟨e, hrefused⟩ := run_writeRoleName_of_taken hthere hfree
    rw [writeRole, Prog.allOrNothing_bind_of_ok (run_writeRolePriority hbelow),
      Prog.allOrNothing_bind_of_error hrefused]
    have hsame : SameRoles s (s.withRoles (rolesWritten roleId req.priority none s.db.roles)) ↔
        ∀ p ∈ req.priority, p = role.priority := by
      have hroles := rolesWritten_same_iff req.priority none hrole
      simp only [Option.not_mem_none, false_implies, implies_true, and_true] at hroles
      rw [← hroles]
      exact and_iff_left (Table.SameRows.refl _)
    rw [hsame]
    push Not at hfree
    obtain ⟨name, hname, htaken⟩ := hfree
    constructor
    · exact fun h => ⟨fun _ _ _ => h, fun _ _ _ hnone => absurd (hid' ▸ htaken) (hnone name hname)⟩
    · intro h
      exact h.name name hname (hid' ▸ htaken)

/-- What an update checks before it writes. -/
theorem updateWhole_iff :
    EditsWhole user (.update roleId req) s ↔ (RoleEdit.update roleId req).Safe user s := by
  have hsafe : (RoleEdit.update roleId req).Safe user s ↔
      ∀ role, UpdateAccepted user roleId req role s → req.Repeats role s.db := Iff.rfl
  have hget : (getRole roleId).Reads :=
    (reads_fetch _).bind fun found => Prog.reads_ofExcept _
  rw [hsafe, EditsWhole, RoleEdit.handler, updateRole,
    Prog.allOrNothing_ofExcept_bind (SameRoles.refl s)]
  simp only [UpdateAccepted, and_imp]
  rw [forall_comm]
  apply forall_congr'
  intro hnotBuiltin
  rw [Prog.allOrNothing_bind_of_ok (run_userPermissions user s),
    Prog.allOrNothing_ofExcept_bind (SameRoles.refl s), forall_comm]
  apply forall_congr'
  intro hmanage
  rw [hget.allOrNothing_bind_iff (SameRoles.refl s)]
  apply forall_congr'
  intro role
  have hfound : (getRole roleId).run s = (.ok role, s) ↔ s.db.roles.find? roleId = some role := by
    rw [getRole, Prog.run_bind_of_ok (run_fetch _ s), Prog.run_ofExcept]
    cases s.db.roles.find? roleId <;> simp
  rw [hfound]
  apply forall_congr'
  intro hrole
  rw [Prog.allOrNothing_ensure_bind (SameRoles.refl s), ge_iff_le, not_le]
  apply forall_congr'
  intro hrank
  by_cases hbelow : ∀ p ∈ req.priority, p < (s.db.userPermissions user).maxPriority
  · rw [imp_iff_right hbelow]
    exact writeRole_whole_iff hrole hbelow
  · obtain ⟨e, hrefused⟩ := run_writeRolePriority_of_not_below roleId s hbelow
    rw [Prog.allOrNothing_bind_of_error hrefused]
    exact iff_of_true (SameRoles.refl s) fun h => absurd h hbelow

end Update

/-- An edit is whole exactly if no permission is listed twice and no name is taken, or what was
written before the refusal is what was there. -/
theorem editsWhole_iff (user : String) (edit : RoleEdit) (s : AppState)
    (hroles : s.db.PermissionsHaveRoles) : EditsWhole user edit s ↔ edit.Safe user s := by
  cases edit with
  | create id now req => exact createRole_whole_iff hroles
  | update roleId req => exact updateWhole_iff

/-! ## A permission that is listed twice -/

/-- A hub with an owner and a role for moderators. -/
def mutingHub : AppState :=
  { db :=
      { users := .single { publicKey := "owner", firstSeenAt := 1, lastSeenAt := 1 }
        roles := ⟨[⟨"builtin-owner", "Owner", 999999, false, 0⟩,
          ⟨"mod", "Moderator", 10, false, 1⟩], by decide⟩
        rolePermissions := ⟨[⟨"builtin-owner", "admin"⟩, ⟨"mod", "mute_members"⟩], by decide⟩
        userRoles := .single ⟨"owner", "builtin-owner", 1⟩ } }

theorem mutingHub_permissions : mutingHub.db.PermissionsHaveRoles := by
  show ∀ row ∈ mutingHub.db.rolePermissions.rows, mutingHub.db.roles.has row.roleId = true
  decide

/-- The moderators may kick and ban. -/
def widerPermissions : RoleEdit :=
  .update "mod" { permissions := some ["kick_members", "ban_members"] }

theorem widerPermissions_whole : widerPermissions.Safe "owner" mutingHub ∧
    EditsWhole "owner" widerPermissions mutingHub := by
  have hsafe : widerPermissions.Safe "owner" mutingHub := by
    intro role _
    constructor
    · intro name hname
      cases hname
    · intro perms hperms hrepeated
      cases hperms
      exact absurd (by decide) hrepeated
  exact ⟨hsafe, (editsWhole_iff "owner" widerPermissions mutingHub mutingHub_permissions).mpr
    hsafe⟩

/-- The second mention of the permission is refused, and the moderators have lost theirs. -/
theorem mutingHub_not_editsWhole :
    ¬ EditsWhole "owner" (.update "mod" { permissions := some ["kick_members", "kick_members"] })
      mutingHub := by
  have hrun : (((RoleEdit.update "mod"
      { permissions := some ["kick_members", "kick_members"] }).handler
      "owner").run mutingHub).1.isOk = false ∧
      ⟨"mod", "mute_members"⟩ ∉ (((RoleEdit.update "mod"
        { permissions := some ["kick_members", "kick_members"] }).handler
          "owner").run mutingHub).2.db.rolePermissions.rows := by
    decide +kernel
  intro hwhole
  rcases hanswer : ((RoleEdit.update "mod"
      { permissions := some ["kick_members", "kick_members"] }).handler "owner").run mutingHub with
    ⟨e | a, t⟩
  · rw [hanswer] at hrun
    exact hrun.2 (((hwhole.failed e t hanswer).2 _).mpr (by decide))
  · rw [hanswer] at hrun
    cases hrun.1

end Voxply.Hub
