/-
# The priority ceiling of the role system

A request may only touch a role that its caller outranks.  Requests of several
callers run at the same time, and each of them checks first and writes in later
statements, so the argument cannot be about one request alone.  `Capped` relates
the state a run starts in to a later one: everything about the roles ranked at
or above a bound is as it was, and permissions of the lower roles were there
before or were named in a request.  A write that is confined to one role below
the bound and leaves it below the bound keeps this relation, and every write of
the five handlers is of that kind once the caller's own rank is known to respect
the bound.
-/

import Voxply.Hub.Roles

namespace Voxply.Hub

open Voxply.Math

/-- The roles ranked at or above `P`. -/
def Db.highRoles (db : Db) (P : Int) : List RoleRow :=
  db.roles.rows.filter (P ≤ ·.priority)

/-- No role with this identifier is ranked at or above `P`. -/
def Db.Below (db : Db) (P : Int) (id : String) : Prop :=
  ∀ role ∈ db.roles.rows, role.id = id → role.priority < P

/-- What a run of role requests from callers bounded by `P` may do. The
permissions that requests may write are given by `granted`. -/
structure Capped (P : Int) (granted : Set String) (s t : AppState) : Prop where
  highRoles : t.db.highRoles P = s.db.highRoles P
  permissions : ∀ role ∈ s.db.highRoles P,
    t.db.rolePermissionsOf role.id = s.db.rolePermissionsOf role.id
  members : ∀ role ∈ s.db.highRoles P, t.db.roleMembers role.id = s.db.roleMembers role.id
  low : ∀ row ∈ t.db.rolePermissions.rows, t.db.Below P row.roleId →
    row.permission ∈ granted ∨ row ∈ s.db.rolePermissions.rows

section Capped

variable {P : Int} {granted : Set String} {s t : AppState}

theorem mem_highRoles {db : Db} {role : RoleRow} :
    role ∈ db.highRoles P ↔ role ∈ db.roles.rows ∧ P ≤ role.priority := by
  simp [Db.highRoles]

theorem below_iff {db : Db} {id : String} :
    db.Below P id ↔ ∀ role ∈ db.highRoles P, role.id ≠ id := by
  simp only [Db.Below, mem_highRoles, ← Int.not_le]
  constructor
  · rintro h role ⟨hmem, hhigh⟩ hid
    exact h role hmem hid hhigh
  · intro h role hmem hid hhigh
    exact h role ⟨hmem, hhigh⟩ hid

/-- Being below the bound is decided by the high roles alone. -/
theorem Capped.below_iff (h : Capped P granted s t) (id : String) :
    t.db.Below P id ↔ s.db.Below P id := by
  rw [Hub.below_iff, Hub.below_iff, h.highRoles]

theorem Capped.refl (s : AppState) : Capped P granted s s where
  highRoles := rfl
  permissions _ _ := rfl
  members _ _ := rfl
  low _ hrow _ := .inr hrow

theorem Capped.trans (a b c : AppState) (hab : Capped P granted a b)
    (hbc : Capped P granted b c) : Capped P granted a c where
  highRoles := hbc.highRoles.trans hab.highRoles
  permissions role hrole :=
    (hbc.permissions role (hab.highRoles ▸ hrole)).trans (hab.permissions role hrole)
  members role hrole :=
    (hbc.members role (hab.highRoles ▸ hrole)).trans (hab.members role hrole)
  low row hrow hbelow := by
    rcases hbc.low row hrow hbelow with hgranted | hold
    · exact .inl hgranted
    · exact hab.low row hold ((hbc.below_iff row.roleId).mp hbelow)

/-! ## Writes confined to one role -/

/-- A statement that touches only the rows of the role `id`, keeps that role
below the bound, and writes no permission but granted ones. -/
structure Confined (P : Int) (granted : Set String) (id : String) (db db' : Db) : Prop where
  roles : db'.roles.rows.filter (·.id ≠ id) = db.roles.rows.filter (·.id ≠ id)
  permissions : db'.rolePermissions.rows.filter (·.roleId ≠ id) =
    db.rolePermissions.rows.filter (·.roleId ≠ id)
  members : db'.userRoles.rows.filter (·.roleId ≠ id) = db.userRoles.rows.filter (·.roleId ≠ id)
  below : db.Below P id → db'.Below P id
  granted : ∀ row ∈ db'.rolePermissions.rows, row.roleId = id →
    row.permission ∈ granted ∨ row ∈ db.rolePermissions.rows

/-- Rows that a filter selects are all among those of another role. -/
theorem filter_eq_of_filter_ne_eq {α : Type} {f : α → String} {id : String} {p : α → Bool}
    {rows rows' : List α} (h : rows'.filter (f · ≠ id) = rows.filter (f · ≠ id))
    (hrows : ∀ row ∈ rows, f row = id → p row = false)
    (hrows' : ∀ row ∈ rows', f row = id → p row = false) :
    rows'.filter p = rows.filter p := by
  have hsplit : ∀ l : List α, (∀ row ∈ l, f row = id → p row = false) →
      l.filter p = (l.filter (f · ≠ id)).filter p := by
    intro l hl
    rw [List.filter_filter]
    apply List.filter_congr
    intro row hrow
    by_cases hid : f row = id
    · simp [hl row hrow hid]
    · simp [hid]
  rw [hsplit rows hrows, hsplit rows' hrows', h]

/-- The step lemma: a confined write to a role below the bound is allowed. -/
theorem Confined.capped {id : String} {db : Db} (h : Confined P granted id s.db db)
    (hbelow : s.db.Below P id) : Capped P granted s (s.withDb db) where
  highRoles := by
    refine filter_eq_of_filter_ne_eq h.roles ?_ ?_
    · intro row hrow hid
      simpa using hbelow row hrow hid
    · intro row hrow hid
      simpa using h.below hbelow row hrow hid
  permissions role hrole := by
    have hne : role.id ≠ id := Hub.below_iff.mp hbelow role hrole
    rw [withDb_db, Db.rolePermissionsOf, Db.rolePermissionsOf,
      filter_eq_of_filter_ne_eq h.permissions]
    · rintro row - rfl
      simpa using hne.symm
    · rintro row - rfl
      simpa using hne.symm
  members role hrole := by
    have hne : role.id ≠ id := Hub.below_iff.mp hbelow role hrole
    rw [withDb_db, Db.roleMembers, Db.roleMembers, filter_eq_of_filter_ne_eq h.members]
    · rintro row - rfl
      simpa using hne.symm
    · rintro row - rfl
      simpa using hne.symm
  low row hrow _ := by
    rw [withDb_db] at hrow
    by_cases hid : row.roleId = id
    · exact h.granted row hrow hid
    · have hmem : row ∈ db.rolePermissions.rows.filter (·.roleId ≠ id) := by
        simp [hid, hrow]
      rw [h.permissions] at hmem
      exact .inr (List.mem_filter.mp hmem).1

/-! ## The statements of the handlers are confined -/

variable {db db' : Db} {id : String}

/-- Rewriting the row of one role, without lifting it over the bound. -/
theorem confined_update {f : RoleRow → RoleRow} (hid : ∀ row, (f row).id = row.id)
    (hbelow : ∀ row, row.priority < P → (f row).priority < P) :
    Confined P granted id db { db with roles := db.roles.update (·.id = id) f hid } where
  roles := by
    refine Table.filter_rows_update _ hid ?_ ?_
    · intro row hrow
      simpa using hrow
    · intro row hrow
      simpa [hid] using hrow
  permissions := rfl
  members := rfl
  below h role hrole hrole' := by
    obtain ⟨old, hold, rfl⟩ := List.mem_map.mp hrole
    by_cases hold' : old.id = id
    · simpa [hold'] using hbelow old (h old hold hold')
    · simp [hold'] at hrole'
  granted _ hrow _ := .inr hrow

theorem confined_updateRolePriority {priority : Int} (hpriority : priority < P)
    (h : updateRolePriority id priority db = .ok db') : Confined P granted id db db' := by
  rw [updateRolePriority, Except.ok.injEq] at h
  subst h
  exact confined_update _ fun _ _ => hpriority

theorem confined_updateRoleName {name : String} (h : updateRoleName id name db = .ok db') :
    Confined P granted id db db' := by
  unfold updateRoleName at h
  split_ifs at h
  rw [Except.ok.injEq] at h
  subst h
  exact confined_update _ fun _ hbelow => hbelow

theorem confined_updateRoleDisplay {flag : Bool} (h : updateRoleDisplay id flag db = .ok db') :
    Confined P granted id db db' := by
  rw [updateRoleDisplay, Except.ok.injEq] at h
  subst h
  exact confined_update _ fun _ hbelow => hbelow

/-- Deleting rows of one role keeps the rows of the others. -/
theorem filter_ne_filter {α : Type} {f : α → String} {p : α → Bool} (rows : List α)
    (hp : ∀ row, f row ≠ id → p row = true) :
    (rows.filter p).filter (f · ≠ id) = rows.filter (f · ≠ id) := by
  rw [List.filter_filter]
  apply List.filter_congr
  intro row _
  by_cases hid : f row = id
  · simp [hid]
  · simp [hid, hp row hid]

theorem confined_deleteRolePermissions (h : deleteRolePermissions id db = .ok db') :
    Confined P granted id db db' := by
  rw [deleteRolePermissions, Except.ok.injEq] at h
  subst h
  refine ⟨rfl, filter_ne_filter _ (by simp), rfl, fun hbelow => hbelow, ?_⟩
  intro row hrow _
  exact .inr (List.mem_filter.mp hrow).1

theorem confined_deleteRoleMembers (h : deleteRoleMembers id db = .ok db') :
    Confined P granted id db db' := by
  rw [deleteRoleMembers, Except.ok.injEq] at h
  subst h
  exact ⟨rfl, rfl, filter_ne_filter _ (by simp), fun hbelow => hbelow, fun _ hrow _ => .inr hrow⟩

theorem confined_deleteUserRole {publicKey : String}
    (h : deleteUserRole publicKey id db = .ok db') : Confined P granted id db db' := by
  rw [deleteUserRole, Except.ok.injEq] at h
  subst h
  refine ⟨rfl, rfl, filter_ne_filter _ ?_, fun hbelow => hbelow, fun _ hrow _ => .inr hrow⟩
  intro row hrow
  simp [hrow]

theorem confined_deleteRoleRow (h : deleteRoleRow id db = .ok db') :
    Confined P granted id db db' := by
  unfold deleteRoleRow at h
  split_ifs at h
  rw [Except.ok.injEq] at h
  subst h
  refine ⟨filter_ne_filter _ (by simp), rfl, rfl, ?_, fun _ hrow _ => .inr hrow⟩
  intro hbelow role hrole
  exact hbelow role (List.mem_filter.mp hrole).1

theorem confined_insertRolePermission {permission : String} (hgranted : permission ∈ granted)
    (h : insertRolePermission ⟨id, permission⟩ db = .ok db') : Confined P granted id db db' := by
  unfold insertRolePermission at h
  split at h
  · cases h
  · next rolePermissions hinsert =>
      have hrows := (Table.insert?_eq_some_iff.mp hinsert).2
      split_ifs at h
      rw [Except.ok.injEq] at h
      subst h
      refine ⟨rfl, by simp [hrows], rfl, fun hbelow => hbelow, ?_⟩
      intro row hrow _
      rw [hrows, List.mem_append, List.mem_singleton] at hrow
      rcases hrow with hrow | rfl
      · exact .inr hrow
      · exact .inl hgranted

theorem confined_insertUserRoleOrIgnore {publicKey : String} {now : Int}
    (h : insertUserRoleOrIgnore ⟨publicKey, id, now⟩ db = .ok db') :
    Confined P granted id db db' := by
  unfold insertUserRoleOrIgnore at h
  split_ifs at h
  · rw [Except.ok.injEq] at h
    subst h
    exact ⟨rfl, rfl, rfl, fun hbelow => hbelow, fun _ hrow _ => .inr hrow⟩
  · unfold insertUserRole at h
    split at h
    · cases h
    · next userRoles hinsert =>
        have hrows := (Table.insert?_eq_some_iff.mp hinsert).2
        split_ifs at h
        rw [Except.ok.injEq] at h
        subst h
        exact ⟨rfl, rfl, by simp [hrows], fun hbelow => hbelow, fun _ hrow _ => .inr hrow⟩

/-- A new role is confined to its own identifier, which no role had before. -/
theorem confined_insertRole {row : RoleRow} (hpriority : row.priority < P)
    (h : insertRole row db = .ok db') :
    db.Below P row.id ∧ Confined P granted row.id db db' := by
  unfold insertRole at h
  split at h
  · cases h
  · next roles hinsert =>
      have hfree := (Table.insert?_eq_some_iff.mp hinsert).1
      have hrows := (Table.insert?_eq_some_iff.mp hinsert).2
      split_ifs at h
      rw [Except.ok.injEq] at h
      subst h
      refine ⟨fun role hrole hid => absurd hid (hfree role hrole), by simp [hrows], rfl, rfl, ?_,
        fun _ hrow _ => .inr hrow⟩
      intro _ role hrole hid
      rw [hrows, List.mem_append, List.mem_singleton] at hrole
      rcases hrole with hrole | rfl
      · exact absurd hid (hfree role hrole)
      · exact hpriority

/-! ## The handlers keep the relation -/

/-- A confined statement on a role known to be below the bound. -/
theorem keeps_confined {onError : SqlError → ApiError} {f : Db → Except SqlError Db}
    (hf : ∀ db db', f db = .ok db' → Confined P granted id db db') (hbelow : s.db.Below P id) :
    (executeOr onError f).Keeps (Capped P granted) (fun _ t => t.db.Below P id) s := by
  apply keeps_executeOr Capped.refl
  intro t db hst hdb
  have hconfined := hf t.db db hdb
  have hbelow' := (hst.below_iff id).mpr hbelow
  refine ⟨hconfined.capped hbelow', fun t' ht' => ?_⟩
  exact (ht'.below_iff id).mpr (hconfined.below hbelow')

theorem mem_roleMembers {db : Db} {roleId user : String} :
    user ∈ db.roleMembers roleId ↔
      ∃ row ∈ db.userRoles.rows, row.userPublicKey = user ∧ row.roleId = roleId := by
  simp only [Db.roleMembers, List.mem_map, List.mem_filter, decide_eq_true_eq]
  constructor
  · rintro ⟨row, ⟨hrow, hid⟩, huser⟩
    exact ⟨row, hrow, huser, hid⟩
  · rintro ⟨row, hrow, huser, hid⟩
    exact ⟨row, ⟨hrow, hid⟩, huser⟩

/-- Whoever holds a high role held it at the start. -/
theorem Capped.held_at_start {user : String} {role : RoleRow} (h : Capped P granted s t)
    (hrole : role ∈ t.db.rolesOf user) (hpriority : P ≤ role.priority) :
    role ∈ s.db.rolesOf user := by
  rw [mem_rolesOf, ← mem_roleMembers] at hrole
  have hhigh : role ∈ s.db.highRoles P := by
    rw [← h.highRoles, mem_highRoles]
    exact ⟨hrole.1, hpriority⟩
  rw [h.members role hhigh] at hrole
  rw [mem_rolesOf, ← mem_roleMembers]
  exact ⟨(mem_highRoles.mp hhigh).1, hrole.2⟩

/-- A member within the bound at the start never holds a role above it. -/
theorem Capped.priority_le {user : String} (h : Capped P granted s t)
    (huser : (s.db.userPermissions user).maxPriority ≤ P) {role : RoleRow}
    (hrole : role ∈ t.db.rolesOf user) : role.priority ≤ P := by
  by_contra hgt
  have hheld := h.held_at_start hrole (by omega)
  have hle : role.priority ≤ (s.db.userPermissions user).maxPriority := le_maxPriority hheld
  omega

section Handlers

variable {start : AppState} {user : String}

/-- A caller who passes the permission check has a rank within the bound: a
member without roles, whose rank would be the default 0, has no permission. -/
theorem keeps_userPermissions (huser : (start.db.userPermissions user).maxPriority ≤ P)
    (hs : Capped P granted start s) :
    (userPermissions user).Keeps (Capped P granted)
      (fun perms _ => perms.has manageRoles = true → perms.maxPriority ≤ P) s := by
  have hroles : (fetch (·.rolesOf user)).Keeps (Capped P granted)
      (fun roles _ => ∀ role ∈ roles, role.priority ≤ P) s := by
    apply keeps_fetch Capped.refl
    intro t _ hst _ role hrole
    exact (hs.trans _ _ _ hst).priority_le huser hrole
  refine Prog.Keeps.bind Capped.refl hroles fun roles t hle => ?_
  rcases maxPriority_cases roles with ⟨rfl, -⟩ | ⟨top, htop, hmax⟩
  · intro _ _ hhas
    simp [UserPermissions.has] at hhas
  · have hbound : maxPriority roles ≤ P := hmax ▸ hle top htop
    have hperms : (fetchPermissions (roles.map (·.id))).Keeps (Capped P granted)
        (fun _ _ => True) t := by
      unfold fetchPermissions
      split_ifs
      · exact fun _ _ => trivial
      · exact keeps_fetch Capped.refl fun _ _ _ _ => trivial
    exact Prog.Keeps.bind Capped.refl hperms fun _ _ _ _ _ _ => hbound

/-- Passing the check on `manage_roles` reveals that the rank is bounded. -/
theorem keeps_require {perms : UserPermissions}
    (hperms : perms.has manageRoles = true → perms.maxPriority ≤ P) :
    (.ofExcept (perms.require manageRoles) : Handler Unit).Keeps (Capped P granted)
      (fun _ _ => perms.maxPriority ≤ P) s := by
  apply Prog.keeps_ofExcept
  intro _ hok _ _
  unfold UserPermissions.require at hok
  split_ifs at hok with hhas
  exact hperms hhas

/-- A role read with a priority below the bound stays below it. -/
theorem keeps_getRole {roleId : String} :
    (getRole roleId).Keeps (Capped P granted)
      (fun role t => role.priority < P → t.db.Below P roleId) s := by
  have hread : (fetch (·.roles.find? roleId)).Keeps (Capped P granted)
      (fun found t => ∀ role, found = some role → role.priority < P → t.db.Below P roleId) s := by
    apply keeps_fetch Capped.refl
    intro t t' _ htt' role hfind hpriority
    have hrole := Table.find?_eq_some_iff.mp hfind
    rw [htt'.below_iff]
    intro other hother hid
    rw [t.db.roles.eq_of_key_eq hother hrole.1 (hid.trans hrole.2.symm)]
    exact hpriority
  refine Prog.Keeps.bind Capped.refl hread fun found t hfound => ?_
  cases found with
  | none => trivial
  | some role =>
      intro t' ht' hpriority
      exact (ht'.below_iff roleId).mpr (hfound role rfl hpriority)

/-- The opening that four of the handlers share: permissions of the caller,
then the role, then the comparison of the two ranks. -/
theorem keeps_guarded {A : Type} {roleId : String} {error : ApiError}
    {k : UserPermissions → RoleRow → Handler A} {post : A → AppState → Prop}
    (huser : (start.db.userPermissions user).maxPriority ≤ P) (hs : Capped P granted start s)
    (hk : ∀ perms role t, perms.maxPriority ≤ P → t.db.Below P roleId →
      (k perms role).Keeps (Capped P granted) post t) :
    Prog.Keeps (Capped P granted) post (do
      let perms ← userPermissions user
      .ofExcept (perms.require manageRoles)
      let role ← getRole roleId
      .ensure (¬ role.priority ≥ perms.maxPriority) error
      k perms role) s := by
  refine Prog.Keeps.bind Capped.refl (keeps_userPermissions huser hs) fun perms _ hperms => ?_
  refine Prog.Keeps.bind Capped.refl (keeps_require hperms) fun _ _ hbound => ?_
  refine Prog.Keeps.bind Capped.refl keeps_getRole fun role t hrole => ?_
  refine Prog.Keeps.bind Capped.refl (Prog.keeps_ensure fun hrank t' ht' => ?_)
    fun _ t' hbelow => hk perms role t' hbound hbelow
  have hbelow : t.db.Below P roleId := hrole (by omega)
  exact (ht'.below_iff roleId).mpr hbelow

theorem keeps_each_permission {perms : List String} (hperms : ∀ perm ∈ perms, perm ∈ granted)
    (hbelow : s.db.Below P id) :
    (Prog.each perms fun perm => execute (insertRolePermission ⟨id, perm⟩)).Keeps
      (Capped P granted) (fun _ t => t.db.Below P id) s := by
  refine Prog.keeps_each Capped.refl ?_ ?_ hbelow
  · exact fun hinv hrel => (hrel.below_iff id).mpr hinv
  · intro perm hperm t ht
    exact keeps_confined (fun _ _ => confined_insertRolePermission (hperms perm hperm)) ht

/-- An optional block on a role below the bound. -/
theorem keeps_optional {C : Type} {o : Option C} {f : C → Handler Unit}
    (hf : ∀ c, o = some c →
      (f c).Keeps (Capped P granted) (fun _ t => t.db.Below P id) s)
    (hbelow : s.db.Below P id) :
    (Prog.whenSome o f).Keeps (Capped P granted) (fun _ t => t.db.Below P id) s :=
  Prog.keeps_whenSome hf fun _ hst => (hst.below_iff id).mpr hbelow

theorem keeps_createRole {now : Int} {req : CreateRoleRequest}
    (huser : (start.db.userPermissions user).maxPriority ≤ P)
    (hreq : ∀ perm ∈ req.permissions, perm ∈ granted) (hs : Capped P granted start s) :
    (createRole user id now req).Keeps (Capped P granted) (fun _ _ => True) s := by
  refine Prog.Keeps.bind Capped.refl (keeps_userPermissions huser hs) fun perms _ hperms => ?_
  refine Prog.Keeps.bind Capped.refl (keeps_require hperms) fun _ _ hbound => ?_
  refine Prog.Keeps.bind Capped.refl
    (Prog.keeps_ensure fun hrank _ _ => show req.priority < P by omega) fun _ t hpriority => ?_
  -- The new identifier is free when the row goes in, so it is below the bound.
  have hinsert : (executeOr (fun e =>
      if e.mentionsUnique then ⟨.conflict, "Role '" ++ req.name ++ "' already exists"⟩
      else dbError e)
      (insertRole ⟨id, req.name, req.priority, req.displaySeparately, now⟩)).Keeps
      (Capped P granted) (fun _ t => t.db.Below P id) t := by
    apply keeps_executeOr Capped.refl
    intro t' db _ hdb
    obtain ⟨hbelow, hconfined⟩ := confined_insertRole hpriority hdb
    refine ⟨hconfined.capped hbelow, fun u hu => ?_⟩
    exact (hu.below_iff id).mpr (hconfined.below hbelow)
  refine Prog.Keeps.bind Capped.refl hinsert fun _ _ hbelow => ?_
  refine Prog.Keeps.bind Capped.refl (keeps_each_permission hreq hbelow) fun _ _ _ => ?_
  exact fun _ _ => trivial

theorem keeps_updateRole {roleId : String} {req : UpdateRoleRequest}
    (huser : (start.db.userPermissions user).maxPriority ≤ P)
    (hreq : ∀ perm ∈ req.permissions.getD [], perm ∈ granted)
    (hs : Capped P granted start s) :
    (updateRole user roleId req).Keeps (Capped P granted) (fun _ _ => True) s := by
  refine Prog.Keeps.bind Capped.refl (Prog.keeps_ofExcept fun _ _ t ht => hs.trans _ _ _ ht)
    fun _ _ hs => ?_
  refine keeps_guarded huser hs fun perms _ _ hbound hbelow => ?_
  refine Prog.Keeps.bind Capped.refl (keeps_optional (fun priority _ => ?_) hbelow)
    fun _ _ hbelow => ?_
  · refine Prog.Keeps.bind Capped.refl
      (Prog.keeps_ensure fun hrank t ht => show priority < P ∧ t.db.Below P roleId from
        ⟨by omega, (ht.below_iff roleId).mpr hbelow⟩) fun _ t hpriority => ?_
    exact keeps_confined (fun _ _ => confined_updateRolePriority hpriority.1) hpriority.2
  refine Prog.Keeps.bind Capped.refl (keeps_optional (fun name _ => ?_) hbelow)
    fun _ _ hbelow => ?_
  · exact keeps_confined (fun _ _ => confined_updateRoleName) hbelow
  refine Prog.Keeps.bind Capped.refl (keeps_optional (fun perms hperms => ?_) hbelow)
    fun _ _ hbelow => ?_
  · refine Prog.Keeps.bind Capped.refl
      (keeps_confined (fun _ _ => confined_deleteRolePermissions) hbelow) fun _ _ hbelow => ?_
    rw [hperms] at hreq
    exact keeps_each_permission hreq hbelow
  refine Prog.Keeps.bind Capped.refl (keeps_optional (fun flag _ => ?_) hbelow) fun _ _ _ => ?_
  · exact keeps_confined (fun _ _ => confined_updateRoleDisplay) hbelow
  refine Prog.Keeps.bind Capped.refl keeps_getRole fun _ _ _ => ?_
  refine Prog.Keeps.bind Capped.refl (keeps_fetch_any Capped.refl fun _ _ _ _ => trivial)
    fun _ _ _ => ?_
  exact fun _ _ => trivial

theorem keeps_deleteRole {roleId : String}
    (huser : (start.db.userPermissions user).maxPriority ≤ P) (hs : Capped P granted start s) :
    (deleteRole user roleId).Keeps (Capped P granted) (fun _ _ => True) s := by
  refine Prog.Keeps.bind Capped.refl (Prog.keeps_ofExcept fun _ _ t ht => hs.trans _ _ _ ht)
    fun _ _ hs => ?_
  refine keeps_guarded huser hs fun _ _ _ _ hbelow => ?_
  refine Prog.Keeps.bind Capped.refl
    (keeps_confined (fun _ _ => confined_deleteRoleMembers) hbelow) fun _ _ hbelow => ?_
  refine Prog.Keeps.bind Capped.refl
    (keeps_confined (fun _ _ => confined_deleteRolePermissions) hbelow) fun _ _ hbelow => ?_
  refine Prog.Keeps.bind Capped.refl
    (keeps_confined (fun _ _ => confined_deleteRoleRow) hbelow) fun _ _ _ => ?_
  exact fun _ _ => trivial

theorem keeps_assignRole {publicKey roleId : String} {now : Int}
    (huser : (start.db.userPermissions user).maxPriority ≤ P) (hs : Capped P granted start s) :
    (assignRole user publicKey roleId now).Keeps (Capped P granted) (fun _ _ => True) s := by
  refine keeps_guarded huser hs fun _ _ _ _ hbelow => ?_
  refine Prog.Keeps.bind Capped.refl
    (keeps_confined (fun _ _ => confined_insertUserRoleOrIgnore) hbelow) fun _ _ _ => ?_
  exact fun _ _ => trivial

theorem keeps_removeRole {publicKey roleId : String}
    (huser : (start.db.userPermissions user).maxPriority ≤ P) (hs : Capped P granted start s) :
    (removeRole user publicKey roleId).Keeps (Capped P granted) (fun _ _ => True) s := by
  refine Prog.Keeps.bind Capped.refl (Prog.keeps_ensure fun _ t ht => hs.trans _ _ _ ht)
    fun _ _ hs => ?_
  refine keeps_guarded huser hs fun _ _ t _ hbelow => ?_
  have hstay : ∀ t', Capped P granted t t' → t'.db.Below P roleId :=
    fun t' ht' => (ht'.below_iff roleId).mpr hbelow
  refine Prog.Keeps.bind Capped.refl (Prog.keeps_when (fun _ => ?_) hstay) fun _ _ hbelow => ?_
  · refine Prog.Keeps.bind Capped.refl
      (keeps_fetch_any Capped.refl fun _ t' ht ht' => hstay t' (ht.trans _ _ _ ht'))
      fun _ _ hbelow => ?_
    exact Prog.keeps_ensure fun _ _ ht => (ht.below_iff roleId).mpr hbelow
  refine Prog.Keeps.bind Capped.refl
    (keeps_confined (fun _ _ => confined_deleteUserRole) hbelow) fun _ _ _ => ?_
  exact fun _ _ => trivial

/-- The permission names a request carries. -/
def RoleRequest.permissions : RoleRequest → List String
  | .create _ _ req => req.permissions
  | .update _ req => req.permissions.getD []
  | _ => []

theorem keeps_handler {request : RoleRequest}
    (huser : (start.db.userPermissions user).maxPriority ≤ P)
    (hrequest : ∀ perm ∈ request.permissions, perm ∈ granted) (hs : Capped P granted start s) :
    (request.handler user).Keeps (Capped P granted) (fun _ _ => True) s := by
  cases request with
  | create id now req =>
      exact Prog.Keeps.bind Capped.refl (keeps_createRole huser hrequest hs)
        fun _ _ _ _ _ => trivial
  | update roleId req =>
      exact Prog.Keeps.bind Capped.refl (keeps_updateRole huser hrequest hs)
        fun _ _ _ _ _ => trivial
  | delete roleId =>
      exact Prog.Keeps.bind Capped.refl (keeps_deleteRole huser hs) fun _ _ _ _ _ => trivial
  | assign publicKey roleId now =>
      exact Prog.Keeps.bind Capped.refl (keeps_assignRole huser hs) fun _ _ _ _ _ => trivial
  | remove publicKey roleId =>
      exact Prog.Keeps.bind Capped.refl (keeps_removeRole huser hs) fun _ _ _ _ _ => trivial

end Handlers

end Capped

/-! ## Runs of role requests -/

/-- The handler of some role request that a member of `actors` issues and that
names no permission outside `granted`. -/
def IssuedBy (actors : Set String) (granted : Set String) (p : Handler Unit) : Prop :=
  ∃ user ∈ actors, ∃ request : RoleRequest,
    (∀ perm ∈ request.permissions, perm ∈ granted) ∧ p = request.handler user

section Runs

variable {P : Int} {actors granted : Set String} {s : AppState}
  {pool : Pool AppState ApiError Unit}

/-- The run lemma: any interleaving of requests from bounded callers stays
within the bound. -/
theorem capped_of_reachable
    (hactors : ∀ user ∈ actors, (s.db.userPermissions user).maxPriority ≤ P)
    (h : Pool.Reachable (IssuedBy actors granted) s pool) :
    Capped P granted s pool.state := by
  have hkeeps : ∀ p, IssuedBy actors granted p → ∀ t, Capped P granted s t →
      p.Keeps (Capped P granted) (fun _ _ => True) t := by
    rintro p ⟨user, huser, request, hrequest, rfl⟩ t ht
    exact keeps_handler (hactors user huser) hrequest ht
  exact h.rel_state Capped.refl Capped.trans hkeeps

/-- A member ranked below the bound stays below it, or has lost every role and
with it the rank: the default rank of a member without roles is 0. -/
theorem Capped.maxPriority_lt {t : AppState} {user : String} (h : Capped P granted s t)
    (huser : (s.db.userPermissions user).maxPriority < P) :
    (t.db.userPermissions user).maxPriority < P ∨ (P ≤ 0 ∧ t.db.rolesOf user = []) := by
  rcases maxPriority_cases (t.db.rolesOf user) with ⟨hnone, hzero⟩ | ⟨top, htop, hmax⟩
  · by_cases hP : P ≤ 0
    · exact .inr ⟨hP, hnone⟩
    · left
      change maxPriority (t.db.rolesOf user) < P
      omega
  · left
    have hbelow : top.priority < P := by
      by_contra hhigh
      have hheld := h.held_at_start htop (by omega)
      have hle : top.priority ≤ (s.db.userPermissions user).maxPriority := le_maxPriority hheld
      omega
    change maxPriority (t.db.rolesOf user) < P
    omega

/-- **Priority ceiling.** Whatever requests members ranked at most `P` issue and
however their statements interleave, the roles ranked at or above `P`, their
permissions and their holders stay as they were; and nobody ranked below `P`
reaches it, except that a member left without any role has rank 0. -/
theorem roleRequests_keep_ceiling (P : Int) (actors : Set String) (s : AppState)
    (pool : Pool AppState ApiError Unit)
    (hactors : ∀ user ∈ actors, (s.db.userPermissions user).maxPriority ≤ P)
    (hpool : Pool.Reachable (IssuedBy actors Set.univ) s pool) :
    pool.state.db.highRoles P = s.db.highRoles P ∧
    (∀ role ∈ s.db.highRoles P,
      pool.state.db.rolePermissionsOf role.id = s.db.rolePermissionsOf role.id ∧
      pool.state.db.roleMembers role.id = s.db.roleMembers role.id) ∧
    ∀ user, (s.db.userPermissions user).maxPriority < P →
      (pool.state.db.userPermissions user).maxPriority < P ∨
        (P ≤ 0 ∧ pool.state.db.rolesOf user = []) := by
  have h := capped_of_reachable hactors hpool
  refine ⟨h.highRoles, fun role hrole => ?_, fun user huser => h.maxPriority_lt huser⟩
  exact ⟨h.permissions role hrole, h.members role hrole⟩

/-- A hub with a moderator of rank 0 and a guest whose only role ranks below
the default. -/
def guestHub : AppState where
  db := {
    users := ⟨[{ publicKey := "mod", firstSeenAt := 1, lastSeenAt := 1 },
      { publicKey := "guest", firstSeenAt := 2, lastSeenAt := 2 }], by decide⟩
    roles := ⟨[⟨"builtin-everyone", "@everyone", 0, false, 0⟩,
      ⟨"builtin-owner", "Owner", 999999, false, 0⟩, ⟨"r1", "moderator", 0, false, 1⟩,
      ⟨"r2", "muted", -1, false, 1⟩], by decide⟩
    rolePermissions := ⟨[⟨"builtin-owner", "admin"⟩, ⟨"r1", "manage_roles"⟩], by decide⟩
    userRoles := ⟨[⟨"mod", "r1", 1⟩, ⟨"guest", "r2", 2⟩], by decide⟩ }

theorem guestHub_bounded : ∀ user ∈ ({"mod"} : Set String),
    (guestHub.db.userPermissions user).maxPriority ≤ 0 := by
  rintro user rfl
  decide

theorem issuedBy_singleton (user : String) (request : RoleRequest) :
    IssuedBy {user} Set.univ (request.handler user) :=
  ⟨user, rfl, request, fun _ _ => trivial, rfl⟩

/-- The moderator removes the guest's only role, and the guest's rank rises to
the bound. -/
theorem ceiling_reached_without_roles :
    ¬ ∀ (P : Int) (actors : Set String) (s : AppState) (pool : Pool AppState ApiError Unit),
      (∀ user ∈ actors, (s.db.userPermissions user).maxPriority ≤ P) →
      Pool.Reachable (IssuedBy actors Set.univ) s pool →
      pool.state.db.highRoles P = s.db.highRoles P ∧
      (∀ role ∈ s.db.highRoles P,
        pool.state.db.rolePermissionsOf role.id = s.db.rolePermissionsOf role.id ∧
        pool.state.db.roleMembers role.id = s.db.roleMembers role.id) ∧
      ∀ user, (s.db.userPermissions user).maxPriority < P →
        (pool.state.db.userPermissions user).maxPriority < P := by
  intro h
  have hstart : Pool.Reachable (IssuedBy {"mod"} Set.univ) guestHub ⟨guestHub, []⟩ := .refl
  obtain ⟨running, hrun⟩ := hstart.run (issuedBy_singleton "mod" (.remove "guest" "r2"))
  have hguest := (h 0 {"mod"} guestHub _ guestHub_bounded hrun).2.2 "guest" (by decide)
  have hrises : ((((RoleRequest.remove "guest" "r2").handler "mod").run
      guestHub).2.db.userPermissions "guest").maxPriority = 0 := by
    decide
  exact absurd hguest (by rw [hrises]; decide)

/-- The moderator assigns the low role, which the handler accepts, and the high
roles stay as they were. -/
theorem roleRequests_keep_ceiling_assign :
    (((RoleRequest.assign "mod" "r2" 3).handler "mod").run guestHub).1 = .ok () ∧
    (((RoleRequest.assign "mod" "r2" 3).handler "mod").run guestHub).2.db.highRoles 0 =
      guestHub.db.highRoles 0 := by
  refine ⟨rfl, ?_⟩
  have hstart : Pool.Reachable (IssuedBy {"mod"} Set.univ) guestHub ⟨guestHub, []⟩ := .refl
  obtain ⟨running, hrun⟩ := hstart.run (issuedBy_singleton "mod" (.assign "mod" "r2" 3))
  exact (roleRequests_keep_ceiling 0 {"mod"} guestHub _ guestHub_bounded hrun).1

/-! ## Permissions that requests can hand out -/

/-- The foreign key of `role_permissions`. -/
def Db.PermissionsReferToRoles (db : Db) : Prop :=
  ∀ row ∈ db.rolePermissions.rows, db.roles.has row.roleId = true

theorem mem_rolePermissionsOf {db : Db} {roleId permission : String} :
    permission ∈ db.rolePermissionsOf roleId ↔
      ∃ row ∈ db.rolePermissions.rows, row.roleId = roleId ∧ row.permission = permission := by
  simp [Db.rolePermissionsOf, and_assoc]

/-- A permission of a high role was there at the start, one of a low role was
there for a role ranked below the bound or was named in a request. -/
theorem Capped.has_cases {t : AppState} {user permission : String} (h : Capped P granted s t)
    (hreferences : s.db.PermissionsReferToRoles)
    (hhas : (t.db.userPermissions user).has permission = true) :
    (s.db.userPermissions user).has permission = true ∨
      ∃ name, (name = admin ∨ name = permission) ∧
        (name ∈ granted ∨
          ∃ role ∈ s.db.roles.rows, role.priority < P ∧ name ∈ s.db.rolePermissionsOf role.id) := by
  obtain ⟨role, hrole, row, hrow, hid, hname⟩ := has_userPermissions_iff.mp hhas
  by_cases hhigh : P ≤ role.priority
  · left
    have hheld := h.held_at_start hrole hhigh
    have hmem : role ∈ s.db.highRoles P :=
      mem_highRoles.mpr ⟨(mem_rolesOf.mp hheld).1, hhigh⟩
    have hperm : row.permission ∈ t.db.rolePermissionsOf role.id :=
      mem_rolePermissionsOf.mpr ⟨row, hrow, hid, rfl⟩
    rw [h.permissions role hmem, mem_rolePermissionsOf] at hperm
    obtain ⟨old, hold, holdId, holdPerm⟩ := hperm
    rw [has_userPermissions_iff]
    exact ⟨role, hheld, old, hold, holdId, by rwa [holdPerm]⟩
  · right
    refine ⟨row.permission, hname, ?_⟩
    have hbelow : t.db.Below P row.roleId := by
      intro other hother hother'
      rw [t.db.roles.eq_of_key_eq hother (mem_rolesOf.mp hrole).1 (hother'.trans hid)]
      omega
    rcases h.low row hrow hbelow with hgranted | hold
    · exact .inl hgranted
    · right
      obtain ⟨first, hfirst, hfirstId⟩ := Table.has_iff.mp (hreferences row hold)
      refine ⟨first, hfirst, (h.below_iff _).mp hbelow first hfirst hfirstId, ?_⟩
      exact mem_rolePermissionsOf.mpr ⟨row, hold, hfirstId.symm, rfl⟩

/-- While nobody changes anything, `user_permissions` reads one state. -/
theorem keeps_userPermissions_frozen {user : String} :
    (userPermissions user).Keeps Eq
      (fun perms t => s = t ∧ perms = s.db.userPermissions user) s := by
  have hroles : (fetch (·.rolesOf user)).Keeps Eq
      (fun roles t => s = t ∧ roles = s.db.rolesOf user) s := by
    refine keeps_fetch (fun _ => rfl) ?_
    rintro t t' rfl rfl
    exact ⟨rfl, rfl⟩
  refine Prog.Keeps.bind (fun _ => rfl) hroles ?_
  rintro roles _ ⟨rfl, rfl⟩
  have hperms : (fetchPermissions ((s.db.rolesOf user).map (·.id))).Keeps Eq
      (fun perms t => s = t ∧ perms = (s.db.userPermissions user).effective) s := by
    unfold fetchPermissions
    split_ifs with hempty
    · rintro t rfl
      refine ⟨rfl, ?_⟩
      rw [List.isEmpty_iff] at hempty
      simp [Db.userPermissions, hempty, Db.permissionsIn]
    · refine keeps_fetch (fun _ => rfl) ?_
      rintro t t' rfl rfl
      exact ⟨rfl, rfl⟩
  refine Prog.Keeps.bind (fun _ => rfl) hperms ?_
  rintro perms _ ⟨rfl, rfl⟩ t rfl
  exact ⟨rfl, rfl⟩

/-- Without `manage_roles` every handler stops at its permission check. -/
theorem keeps_unauthorized {A : Type} {user : String} {k : UserPermissions → Handler A}
    (h : (s.db.userPermissions user).has manageRoles = false) :
    Prog.Keeps Eq (fun _ _ => True) (do
      let perms ← userPermissions user
      .ofExcept (perms.require manageRoles)
      k perms) s := by
  refine Prog.Keeps.bind (fun _ => rfl) keeps_userPermissions_frozen ?_
  rintro perms t ⟨rfl, rfl⟩
  have hrefused : (s.db.userPermissions user).require manageRoles =
      .error ⟨.forbidden, "Missing permission: " ++ manageRoles⟩ :=
    if_neg (by simp [h])
  rw [hrefused]
  trivial

theorem keeps_handler_unauthorized {user : String} {request : RoleRequest}
    (h : (s.db.userPermissions user).has manageRoles = false) :
    (request.handler user).Keeps Eq (fun _ _ => True) s := by
  have hguard : ∀ {A : Type} {p : Handler A}, p.Keeps Eq (fun _ _ => True) s →
      (do let _ ← p : Handler Unit).Keeps Eq (fun _ _ => True) s :=
    fun hp => Prog.Keeps.bind (fun _ => rfl) hp fun _ _ _ _ _ => trivial
  have hfirst : ∀ {A : Type} {x : Except ApiError Unit} {p : Handler A},
      p.Keeps Eq (fun _ _ => True) s →
      (do .ofExcept x; p : Handler A).Keeps Eq (fun _ _ => True) s := by
    intro A x p hp
    refine Prog.Keeps.bind (fun _ => rfl) (Prog.keeps_ofExcept fun _ _ t ht => ht) ?_
    rintro _ t rfl
    exact hp
  cases request with
  | create id now req => exact hguard (keeps_unauthorized h)
  | update roleId req => exact hguard (hfirst (keeps_unauthorized h))
  | delete roleId => exact hguard (hfirst (keeps_unauthorized h))
  | assign publicKey roleId now => exact hguard (keeps_unauthorized h)
  | remove publicKey roleId =>
      apply hguard
      refine Prog.Keeps.bind (fun _ => rfl) (Prog.keeps_ensure fun _ t ht => ht) ?_
      rintro _ t rfl
      exact keeps_unauthorized h

/-- **Reach of role requests.** After any interleaving of requests from members
ranked at most `P`, a permission that a user has was theirs at the start, or it
was named in one of the requests, or some role ranked below `P` carried it at
the start, with `admin` standing for every permission. If no caller has
`manage_roles`, nothing changes at all. -/
theorem roleRequests_permissions_bounded (P : Int) (actors granted : Set String) (s : AppState)
    (pool : Pool AppState ApiError Unit) (hreferences : s.db.PermissionsReferToRoles)
    (hactors : ∀ user ∈ actors, (s.db.userPermissions user).maxPriority ≤ P)
    (hpool : Pool.Reachable (IssuedBy actors granted) s pool) :
    (∀ user permission, (pool.state.db.userPermissions user).has permission = true →
      (s.db.userPermissions user).has permission = true ∨
        ∃ name, (name = admin ∨ name = permission) ∧
          (name ∈ granted ∨ ∃ role ∈ s.db.roles.rows,
            role.priority < P ∧ name ∈ s.db.rolePermissionsOf role.id)) ∧
    ((∀ user ∈ actors, (s.db.userPermissions user).has manageRoles = false) →
      pool.state.db = s.db) := by
  constructor
  · intro user permission hhas
    exact (capped_of_reachable hactors hpool).has_cases hreferences hhas
  · intro hnone
    have hkeeps : ∀ p, IssuedBy actors granted p → ∀ t, s = t →
        p.Keeps Eq (fun _ _ => True) t := by
      rintro p ⟨user, huser, request, -, rfl⟩ t rfl
      exact keeps_handler_unauthorized (hnone user huser)
    rw [← hpool.rel_state (fun _ => rfl) (fun _ _ _ hab hbc => hab.trans hbc) hkeeps]

/-- A hub with a moderator who may manage roles and nothing else. -/
def moderatorHub : AppState where
  db := {
    users := ⟨[{ publicKey := "mod", firstSeenAt := 1, lastSeenAt := 1 }], by decide⟩
    roles := ⟨[⟨"builtin-everyone", "@everyone", 0, false, 0⟩,
      ⟨"builtin-owner", "Owner", 999999, false, 0⟩, ⟨"r1", "moderator", 10, false, 1⟩],
      by decide⟩
    rolePermissions := ⟨[⟨"builtin-owner", "admin"⟩, ⟨"r1", "manage_roles"⟩], by decide⟩
    userRoles := ⟨[⟨"mod", "r1", 1⟩], by decide⟩ }

def createAdminRole : RoleRequest := .create "r9" 2 ⟨"helper", ["admin"], 1, false⟩

/-- The moderator creates a low role that carries `admin` and assigns it to
themselves. -/
theorem moderator_obtains_admin :
    ¬ ∀ (actors : Set String) (s : AppState) (pool : Pool AppState ApiError Unit),
      (∀ user ∈ actors, (s.db.userPermissions user).has admin = false) →
      Pool.Reachable (IssuedBy actors Set.univ) s pool →
      ∀ user permission, (pool.state.db.userPermissions user).has permission = true →
        (s.db.userPermissions user).has permission = true ∨
          ∃ actor ∈ actors, (s.db.userPermissions actor).has permission = true := by
  intro h
  have hstart : Pool.Reachable (IssuedBy {"mod"} Set.univ) moderatorHub ⟨moderatorHub, []⟩ :=
    .refl
  obtain ⟨_, hcreated⟩ := hstart.run (issuedBy_singleton "mod" createAdminRole)
  obtain ⟨_, hassigned⟩ := hcreated.run (issuedBy_singleton "mod" (.assign "mod" "r9" 3))
  have hbefore : (moderatorHub.db.userPermissions "mod").has admin = false := by decide
  have hafter : ((((RoleRequest.assign "mod" "r9" 3).handler "mod").run
      ((createAdminRole.handler "mod").run moderatorHub).2).2.db.userPermissions
        "mod").has admin = true := by
    decide
  have hmod : ∀ user ∈ ({"mod"} : Set String),
      (moderatorHub.db.userPermissions user).has admin = false := by
    rintro user rfl
    exact hbefore
  rcases h {"mod"} moderatorHub _ hmod hassigned "mod" admin hafter with hself | hother
  · exact Bool.false_ne_true (hbefore.symm.trans hself)
  · obtain ⟨actor, hactor, hother⟩ := hother
    exact Bool.false_ne_true ((hmod actor hactor).symm.trans hother)

/-- The bound at the same hub: what the moderator can reach after creating the
role is what they had or what they named. -/
theorem roleRequests_permissions_bounded_create :
    ((createAdminRole.handler "mod").run moderatorHub).1 = .ok () ∧
    ∀ user permission,
      (((createAdminRole.handler "mod").run moderatorHub).2.db.userPermissions user).has
        permission = true →
      (moderatorHub.db.userPermissions user).has permission = true ∨
        ∃ name, (name = admin ∨ name = permission) ∧
          (name ∈ ({"admin"} : Set String) ∨ ∃ role ∈ moderatorHub.db.roles.rows,
            role.priority < 10 ∧ name ∈ moderatorHub.db.rolePermissionsOf role.id) := by
  refine ⟨rfl, ?_⟩
  have hstart : Pool.Reachable (IssuedBy {"mod"} {"admin"}) moderatorHub ⟨moderatorHub, []⟩ :=
    .refl
  have hissued : IssuedBy {"mod"} {"admin"} (createAdminRole.handler "mod") :=
    ⟨"mod", rfl, createAdminRole, fun _ hperm => List.mem_singleton.mp hperm, rfl⟩
  obtain ⟨_, hcreated⟩ := hstart.run hissued
  have hreferences : moderatorHub.db.PermissionsReferToRoles := by
    unfold Db.PermissionsReferToRoles
    decide
  have hmod : ∀ user ∈ ({"mod"} : Set String),
      (moderatorHub.db.userPermissions user).maxPriority ≤ 10 := by
    rintro user rfl
    decide
  exact (roleRequests_permissions_bounded 10 {"mod"} {"admin"} moderatorHub _ hreferences hmod
    hcreated).1

end Runs

end Voxply.Hub
