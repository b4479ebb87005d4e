/-
# Decisions on key rotation requests

An administrator approves or denies a rotation request.  Both handlers read the
status of the request first and overwrite it in their last statement, whatever
it has become in the meantime.  An approval registers the new key, copies the
roles of the old key to it and ends the sessions of the old key in between.

The old key keeps its roles.  What else is promised of a decision holds in runs
in which each decision finds the request as its handler has read it.
-/

import Voxply.Hub.Recovery

namespace Voxply.Hub

open Voxply.Math

/-! ## The handlers -/

/-- The columns of a request that the decision handlers fetch. -/
structure RotationRow where
  id : String
  oldPubkey : String
  newPubkey : String
  reason : Option String
  status : RotationStatus
  createdAt : Int
  attestationCount : Int
  deriving DecidableEq

/-- A request with the number of its attestations, as the join on `request_id`
counts them. -/
def Db.rotationRow (db : Db) (id : String) : Option RotationRow :=
  (db.keyRotationRequests.find? id).map fun row =>
    ⟨row.id, row.oldPubkey, row.newPubkey, row.reason, row.status, row.createdAt,
      (db.attestationsFor row.id).length⟩

def fetchRotationRequest (id : String) : Handler RotationRow := do
  let row ← fetch (·.rotationRow id)
  .ofExcept (row.elim (.error ⟨.notFound, "Rotation request not found"⟩) .ok)

/-- Whether a request still waits for its decision. -/
def RotationStatus.Open (status : RotationStatus) : Prop :=
  status = .readyForReview ∨ status = .pending

instance (status : RotationStatus) : Decidable status.Open :=
  inferInstanceAs (Decidable (_ ∨ _))

/-- `INSERT OR IGNORE INTO users`. -/
def insertUserOrIgnore (publicKey : String) (now : Int) (db : Db) : Db :=
  { db with
    users := db.users.insertOrIgnore
      { publicKey := publicKey, firstSeenAt := now, lastSeenAt := now } }

/-- `INSERT OR IGNORE INTO user_roles … SELECT … FROM user_roles`: a row for the
new key for every row of the old one. A dangling reference undoes them all. -/
def transferRoles (newPubkey oldPubkey : String) (now : Int) (db : Db) : Except SqlError Db :=
  (db.userRoles.rows.filter (·.userPublicKey = oldPubkey)).foldlM
    (fun db row => insertUserRoleOrIgnore ⟨newPubkey, row.roleId, now⟩ db) db

/-- `UPDATE key_rotation_requests SET status = ?, decided_at = ?, decided_by = ?
WHERE id = ?`. -/
def decideRequest (id : String) (status : RotationStatus) (now : Int) (user : String) (db : Db) :
    Db :=
  db.withRotations
    (db.keyRotationRequests.update (·.id = id)
      (fun row => { row with status := status, decidedAt := some now, decidedBy := some user })
      fun _ => rfl)
    db.rotationAttestations

/-- `admin_approve`. -/
def adminApprove (now : Int) (user id : String) : Handler StatusCode := do
  let perms ← userPermissions user
  .ofExcept (perms.require admin)
  let row ← fetchRotationRequest id
  .ensure row.status.Open ⟨.conflict, "Request is not in an approvable state"⟩
  -- Insert new user row if it doesn't exist yet (new key may not have authed before).
  write (insertUserOrIgnore row.newPubkey now)
  -- Transfer roles from old key to new key.
  execute (transferRoles row.newPubkey row.oldPubkey now)
  -- Revoke all sessions for the old key.
  write (deleteSessions row.oldPubkey)
  -- Mark request as approved.
  write (decideRequest id .approved now user)
  pure .ok

/-- `admin_deny`. -/
def adminDeny (now : Int) (user id : String) : Handler StatusCode := do
  let perms ← userPermissions user
  .ofExcept (perms.require admin)
  let row ← fetchRotationRequest id
  .ensure row.status.Open ⟨.conflict, "Request is not in a deniable state"⟩
  write (decideRequest id .rejected now user)
  pure .ok

/-! ## Requests -/

inductive DecisionRequest where
  | approve (now : Int) (user id : String)
  | deny (now : Int) (user id : String)
  deriving DecidableEq

namespace DecisionRequest

def handler : DecisionRequest → Handler StatusCode
  | approve now user id => adminApprove now user id
  | deny now user id => adminDeny now user id

/-- The rotation request that is decided. -/
def id : DecisionRequest → String
  | approve _ _ id => id
  | deny _ _ id => id

/-- The administrator who decides. -/
def user : DecisionRequest → String
  | approve _ user _ => user
  | deny _ user _ => user

def now : DecisionRequest → Int
  | approve now _ _ => now
  | deny now _ _ => now

/-- The status that the decision writes. -/
def verdict : DecisionRequest → RotationStatus
  | approve .. => .approved
  | deny .. => .rejected

theorem verdict_not_open (request : DecisionRequest) : ¬ request.verdict.Open := by
  cases request <;> simp [verdict, RotationStatus.Open]

end DecisionRequest

abbrev DecisionEvent := Event DecisionRequest AppState

/-- Follow a schedule of approvals and denials. -/
abbrev decisionRun (moves : List (Move DecisionRequest)) (s : AppState) :
    Server DecisionRequest AppState ApiError StatusCode :=
  serve DecisionRequest.handler moves s

/-! ## The transfer of roles -/

section Transfer

variable {db db' : Db} {row : UserRoleRow}

theorem insertUserRoleOrIgnore_ok (h : insertUserRoleOrIgnore row db = .ok db') :
    (∃ userRoles, db' = { db with userRoles := userRoles }) ∧
      ∀ k, db'.userRoles.has k = true ↔ db.userRoles.has k = true ∨ row.key = k := by
  unfold insertUserRoleOrIgnore at h
  split_ifs at h with htaken
  · cases h
    exact ⟨⟨_, rfl⟩, fun k => ⟨.inl, fun hk => hk.elim id fun hkey => hkey ▸ htaken⟩⟩
  · unfold insertUserRole at h
    cases hinsert : db.userRoles.insert? row with
    | none => simp [hinsert] at h
    | some userRoles =>
        simp only [hinsert] at h
        split_ifs at h
        cases h
        exact ⟨⟨_, rfl⟩, Table.has_of_append (Table.insert?_eq_some_iff.mp hinsert).2⟩

/-- A transfer that is carried out touches no other table, takes no role away
and gives the new key the roles of the old one. -/
theorem transferRoles_ok {newPubkey oldPubkey : String} {now : Int}
    (h : transferRoles newPubkey oldPubkey now db = .ok db') :
    (∃ userRoles, db' = { db with userRoles := userRoles }) ∧
      (∀ k, db.userRoles.has k = true → db'.userRoles.has k = true) ∧
      ∀ roleId, db.userRoles.has (oldPubkey, roleId) = true →
        db'.userRoles.has (newPubkey, roleId) = true := by
  have hfold : ∀ (rows : List UserRoleRow) (db db' : Db),
      rows.foldlM (fun db row => insertUserRoleOrIgnore ⟨newPubkey, row.roleId, now⟩ db) db =
        .ok db' → (∃ userRoles, db' = { db with userRoles := userRoles }) ∧
      (∀ k, db.userRoles.has k = true → db'.userRoles.has k = true) ∧
      ∀ row ∈ rows, db'.userRoles.has (newPubkey, row.roleId) = true := by
    intro rows
    induction rows with
    | nil =>
        intro db db' h
        cases h
        exact ⟨⟨_, rfl⟩, fun _ hk => hk, by simp⟩
    | cons row rest ih =>
        intro db db' h
        rw [List.foldlM_cons] at h
        cases hfirst : insertUserRoleOrIgnore ⟨newPubkey, row.roleId, now⟩ db with
        | error e =>
            rw [hfirst] at h
            cases h
        | ok next =>
            rw [hfirst] at h
            obtain ⟨⟨_, rfl⟩, hhas⟩ := insertUserRoleOrIgnore_ok hfirst
            obtain ⟨⟨_, rfl⟩, hkept, hnew⟩ := ih _ _ h
            refine ⟨⟨_, rfl⟩, fun k hk => hkept k ((hhas k).mpr (.inl hk)), ?_⟩
            intro other hother
            rcases List.mem_cons.mp hother with rfl | hother
            · exact hkept _ ((hhas _).mpr (.inr rfl))
            · exact hnew other hother
  obtain ⟨hdb, hkept, hnew⟩ := hfold _ _ _ h
  refine ⟨hdb, hkept, fun roleId hold => ?_⟩
  obtain ⟨row, hrow, hkey⟩ := Table.has_iff.mp hold
  obtain ⟨huser, rfl⟩ := Prod.mk.inj hkey
  exact hnew row (List.mem_filter.mpr ⟨hrow, by simpa using huser⟩)

/-- There is nothing to transfer from a key without roles. -/
theorem transferRoles_of_none {newPubkey oldPubkey : String} {now : Int}
    (h : ∀ row ∈ db.userRoles.rows, row.userPublicKey ≠ oldPubkey) :
    transferRoles newPubkey oldPubkey now db = .ok db := by
  have hempty : db.userRoles.rows.filter (·.userPublicKey = oldPubkey) = [] := by
    simpa using h
  rw [transferRoles, hempty]
  rfl

end Transfer

/-! ## Statements -/

/-- The handler has read the request while it was open. -/
def SeenOpen (id : String) (row : KeyRotationRow) (past : List (Sent AppState)) : Prop :=
  ∃ sent ∈ past, sent.before.db.keyRotationRequests.find? id = some row ∧ row.status.Open

/-- The roles of a request that was open have been copied, by the fifth
statement of the handler. -/
def RolesCopied (request : DecisionRequest) (row : KeyRotationRow)
    (past : List (Sent AppState)) : Prop :=
  ∃ earlier s db, SeenOpen request.id row earlier ∧ earlier.length = 4 ∧
    earlier ++ [⟨executed (transferRoles row.newPubkey row.oldPubkey request.now), s⟩] <+: past ∧
    transferRoles row.newPubkey row.oldPubkey request.now s.db = .ok db

theorem SeenOpen.mono {id : String} {row : KeyRotationRow} {past past' : List (Sent AppState)}
    (h : SeenOpen id row past) (hpast : past <+: past') : SeenOpen id row past' := by
  obtain ⟨sent, hsent, hseen⟩ := h
  exact ⟨sent, hpast.mem hsent, hseen⟩

/-- The statement writes the verdict on a request that its handler has read
open. By then an approval has copied the roles and deleted the sessions. -/
structure WritesVerdict (request : DecisionRequest) (past : List (Sent AppState))
    (sent : Sent AppState) : Prop where
  statement : sent.statement =
    written (decideRequest request.id request.verdict request.now request.user)
  seen : ∃ row, SeenOpen request.id row past ∧ (request.verdict = .approved →
    RolesCopied request row past ∧
    ∃ earlier s, earlier ++ [⟨written (deleteSessions row.oldPubkey), s⟩] <+: past)

/-- What a statement of a decision may do. -/
inductive DecisionSent (request : DecisionRequest) (past : List (Sent AppState))
    (sent : Sent AppState) : Prop
  | read (h : sent.statement = id)
  | join (row : KeyRotationRow)
      (h : sent.statement = written (insertUserOrIgnore row.newPubkey request.now))
  | transfer (row : KeyRotationRow) (hrow : SeenOpen request.id row past)
      (happrove : request.verdict = .approved) (hplace : past.length = 4)
      (h : sent.statement = executed (transferRoles row.newPubkey row.oldPubkey request.now))
  | logout (row : KeyRotationRow) (h : sent.statement = written (deleteSessions row.oldPubkey))
  | decide (h : WritesVerdict request past sent)

/-- A decision that is answered ends by writing its verdict. -/
def DecisionRequest.Done (request : DecisionRequest) (past : List (Sent AppState)) : Prop :=
  ∃ earlier sent, past = earlier ++ [sent] ∧ WritesVerdict request earlier sent

/-- The last statement of a decision. -/
theorem decideRequest_follows {request : DecisionRequest} {past : List (Sent AppState)}
    (h : ∀ s, WritesVerdict request past
      ⟨written (decideRequest request.id request.verdict request.now request.user), s⟩) :
    (write (decideRequest request.id request.verdict request.now request.user) >>=
      fun _ => pure .ok : Handler StatusCode).Follows (DecisionSent request)
      (fun _ => request.Done) past := by
  apply follows_write_bind
  · exact fun s => .decide (h s)
  · exact fun s => ⟨past, _, rfl, h s⟩

/-- The fetched row is the stored one. -/
theorem fetchRotationRequest_reads (requestId : String) {past : List (Sent AppState)} :
    (fetchRotationRequest requestId).Follows (fun _ sent => sent.statement = id)
      (fun row past' => past'.length = past.length + 1 ∧ ∃ sent ∈ past', ∃ stored,
        sent.before.db.keyRotationRequests.find? requestId = some stored ∧
        row.newPubkey = stored.newPubkey ∧ row.oldPubkey = stored.oldPubkey ∧
        row.status = stored.status) past := by
  apply follows_fetch_bind fun _ => rfl
  intro s
  apply Prog.follows_ofExcept
  intro row hrow
  unfold Db.rotationRow at hrow
  cases hfind : s.db.keyRotationRequests.find? requestId with
  | none => simp [hfind] at hrow
  | some stored =>
      simp only [hfind, Option.map_some, Option.elim_some, Except.ok.injEq] at hrow
      subst hrow
      exact ⟨by simp, ⟨id, s⟩, by simp, stored, hfind, rfl, rfl, rfl⟩

/-- The checks that both handlers begin with. -/
theorem decision_checks_follow {A : Type} {request : DecisionRequest} {e : ApiError}
    {g : RotationRow → Handler A} {post : A → List (Sent AppState) → Prop}
    (hnext : ∀ (row : RotationRow) (stored : KeyRotationRow) (past : List (Sent AppState)),
      past.length = 3 → SeenOpen request.id stored past → row.newPubkey = stored.newPubkey →
      row.oldPubkey = stored.oldPubkey → (g row).Follows (DecisionSent request) post past) :
    (do
      let perms ← userPermissions request.user
      .ofExcept (perms.require admin)
      let row ← fetchRotationRequest request.id
      .ensure row.status.Open e
      g row : Handler A).Follows (DecisionSent request) post [] := by
  apply ((userPermissions_reads request.user).mono (fun _ _ _ h => .read h)
    fun _ _ _ h => h).bind
  intro perms past _ hperms
  apply Prog.follows_ofExcept_bind
  intro _ hadmin
  apply ((fetchRotationRequest_reads request.id).mono (fun _ _ _ h => .read h)
    fun _ _ _ h => h).bind
  rintro row past' - ⟨hlength, sent, hsent, stored, hfind, hnew, hold, hstatus⟩
  apply Prog.follows_ensure_bind
  intro hopen
  apply hnext row stored past' _ ⟨sent, hsent, hfind, hstatus ▸ hopen⟩ hnew hold
  rw [hlength, hperms admin hadmin]
  rfl

theorem adminApprove_follows (now : Int) (user id : String) :
    (adminApprove now user id).Follows (DecisionSent (.approve now user id))
      (fun _ => (DecisionRequest.approve now user id).Done) [] := by
  apply decision_checks_follow
  intro row stored past hlength hseen hnew hold
  rw [hnew, hold]
  apply follows_write_bind fun s => .join stored rfl
  intro s
  have hseen := hseen.mono
    (List.prefix_append past [Sent.mk (written (insertUserOrIgnore stored.newPubkey now)) s])
  have hlength :
      (past ++ [Sent.mk (written (insertUserOrIgnore stored.newPubkey now)) s]).length = 4 := by
    rw [List.length_append, hlength]
    rfl
  apply follows_execute_bind fun s' => .transfer stored hseen rfl hlength rfl
  intro s' db hdb
  apply follows_write_bind fun s => .logout stored rfl
  intro s''
  apply decideRequest_follows
  intro s₃
  refine ⟨rfl, stored, hseen.mono ?_, fun _ => ⟨⟨_, s', db, hseen, hlength, ?_, hdb⟩, ?_⟩⟩
  · simp
  · exact List.prefix_append ..
  · exact ⟨_, s'', List.prefix_refl _⟩

theorem adminDeny_follows (now : Int) (user id : String) :
    (adminDeny now user id).Follows (DecisionSent (.deny now user id))
      (fun _ => (DecisionRequest.deny now user id).Done) [] := by
  apply decision_checks_follow
  intro row stored past hlength hseen hnew hold
  apply decideRequest_follows
  exact fun s => ⟨rfl, stored, hseen, fun h => nomatch h⟩

theorem DecisionRequest.handler_follows (request : DecisionRequest) :
    request.handler.Follows (DecisionSent request) (fun _ => request.Done) [] := by
  cases request with
  | approve now user id => exact adminApprove_follows now user id
  | deny now user id => exact adminDeny_follows now user id

/-! ## Failed decisions -/

/-- None of the statements has changed a role. -/
def RolesKept (past : List (Sent AppState)) : Prop :=
  ∀ sent ∈ past, sent.after.db.userRoles = sent.before.db.userRoles

theorem RolesKept.snoc {past : List (Sent AppState)} {sent : Sent AppState}
    (h : sent.after.db.userRoles = sent.before.db.userRoles) (hpast : RolesKept past) :
    RolesKept (past ++ [sent]) := by
  intro other hother
  rcases List.mem_append.mp hother with hother | hother
  · exact hpast other hother
  · rw [List.mem_singleton.mp hother]
    exact h

theorem RolesKept.read {past : List (Sent AppState)} {sent : Sent AppState}
    (h : sent.statement = id) (hpast : RolesKept past) : RolesKept (past ++ [sent]) :=
  hpast.snoc (by rw [Sent.after, h]; rfl)

/-- A decision that fails has not changed a role. -/
theorem DecisionRequest.handler_always (request : DecisionRequest) :
    request.handler.Always (fun answer past => (∃ e, answer = some (.error e)) → RolesKept past)
      [] := by
  have hnothing : RolesKept [] := fun _ h => absurd h List.not_mem_nil
  have hreturned : ∀ {past : List (Sent AppState)} {answer : StatusCode},
      (∃ e, some (Except.ok answer) = some (Except.error (e : ApiError))) → RolesKept past := by
    rintro _ _ ⟨_, h⟩
    cases h
  cases request with
  | deny now user id =>
      refine (adminDeny_follows now user id).always RolesKept ?_ hnothing fun _ _ h _ => h
      intro past sent hsent
      cases hsent with
      | read h => exact RolesKept.read h
      | join row h => exact RolesKept.snoc (by rw [Sent.after, h]; rfl)
      | transfer row hrow happrove => cases happrove
      | logout row h => exact RolesKept.snoc (by rw [Sent.after, h]; rfl)
      | decide h => exact RolesKept.snoc (by rw [Sent.after, h.statement]; rfl)
  | approve now user id =>
      refine (userPermissions_reads user).always_bind RolesKept (fun _ _ => .read) hnothing
        (fun _ _ h _ => h) ?_
      intro perms past hpast _
      refine Prog.always_ofExcept_bind (fun _ _ _ => hpast) fun _ _ => ?_
      refine (fetchRotationRequest_reads id).always_bind RolesKept (fun _ _ => .read) hpast
        (fun _ _ h _ => h) ?_
      intro row past hpast _
      refine Prog.always_ensure_bind (fun _ _ => hpast) fun _ => ?_
      refine always_write_bind (fun _ => hpast) fun s => ?_
      have hjoined : RolesKept (past ++ [⟨written (insertUserOrIgnore row.newPubkey now), s⟩]) :=
        hpast.snoc rfl
      -- A refused transfer leaves the roles alone; after it nothing can fail.
      refine always_execute_bind (fun _ => hjoined) (fun s' e he _ => ?_) fun s' db _ => ?_
      · exact hjoined.snoc (by rw [Sent.after_mk, executed_of_error he])
      · exact always_write_bind (by simp) fun _ => always_write_bind (by simp) fun _ => hreturned

/-! ## Effects -/

section Effects

variable {request : DecisionRequest} {past : List (Sent AppState)} {sent : Sent AppState}

theorem find?_decideRequest (id : String) (status : RotationStatus) (now : Int) (user : String)
    (db : Db) (k : String) :
    (decideRequest id status now user db).keyRotationRequests.find? k =
      (db.keyRotationRequests.find? k).map fun row =>
        if row.id = id then
          { row with status := status, decidedAt := some now, decidedBy := some user }
        else row := by
  rw [decideRequest, Db.withRotations, Table.find?_update]
  simp

/-- What a row was before a verdict was written. -/
theorem find?_decideRequest_cases {id k user : String} {status : RotationStatus} {now : Int}
    {db : Db} {row : KeyRotationRow}
    (h : (decideRequest id status now user db).keyRotationRequests.find? k = some row) :
    (k ≠ id ∧ db.keyRotationRequests.find? k = some row) ∨
      (k = id ∧ row.status = status ∧ row.decidedBy = some user) := by
  rw [find?_decideRequest] at h
  obtain ⟨old, hold, rfl⟩ := Option.map_eq_some_iff.mp h
  have hid : old.id = k := (Table.find?_eq_some_iff.mp hold).2
  split_ifs with hsame
  · exact .inr ⟨hid.symm.trans hsame, rfl, rfl⟩
  · exact .inl ⟨fun hk => hsame (hid.trans hk), hold⟩

/-- Only a verdict changes the requests. -/
theorem DecisionSent.requests (h : DecisionSent request past sent) :
    sent.after.db.keyRotationRequests = sent.before.db.keyRotationRequests ∨
      WritesVerdict request past sent := by
  cases h with
  | read h => exact .inl (by rw [Sent.after, h]; rfl)
  | join row h => exact .inl (by rw [Sent.after, h]; rfl)
  | transfer row hrow happrove hplace h =>
      left
      rw [Sent.after, h]
      cases hdb : transferRoles row.newPubkey row.oldPubkey request.now sent.before.db with
      | error e => rw [executed_of_error hdb]
      | ok db =>
          obtain ⟨⟨_, rfl⟩, -⟩ := transferRoles_ok hdb
          rw [executed_of_ok hdb]
          rfl
  | logout row h => exact .inl (by rw [Sent.after, h]; rfl)
  | decide h => exact .inr h

/-- No session is opened. -/
theorem DecisionSent.sessions (h : DecisionSent request past sent) {session : SessionRow}
    (hsession : session ∈ sent.after.db.sessions.rows) :
    session ∈ sent.before.db.sessions.rows := by
  cases h with
  | read h => rwa [Sent.after, h] at hsession
  | join row h => rwa [Sent.after, h] at hsession
  | transfer row hrow happrove hplace h =>
      rw [Sent.after, h] at hsession
      cases hdb : transferRoles row.newPubkey row.oldPubkey request.now sent.before.db with
      | error e => rwa [executed_of_error hdb] at hsession
      | ok db =>
          obtain ⟨⟨_, rfl⟩, -⟩ := transferRoles_ok hdb
          rwa [executed_of_ok hdb] at hsession
  | logout row h =>
      rw [Sent.after, h] at hsession
      exact (List.mem_filter.mp hsession).1
  | decide h => rwa [Sent.after, h.statement] at hsession

/-- No role is taken away. -/
theorem DecisionSent.roles (h : DecisionSent request past sent) {k : String × String}
    (hk : sent.before.db.userRoles.has k = true) : sent.after.db.userRoles.has k = true := by
  cases h with
  | read h => rwa [Sent.after, h]
  | join row h => rwa [Sent.after, h]
  | transfer row hrow happrove hplace h =>
      rw [Sent.after, h]
      cases hdb : transferRoles row.newPubkey row.oldPubkey request.now sent.before.db with
      | error e => rwa [executed_of_error hdb]
      | ok db =>
          rw [executed_of_ok hdb]
          exact (transferRoles_ok hdb).2.1 k hk
  | logout row h => rwa [Sent.after, h]
  | decide h => rwa [Sent.after, h.statement]

/-- Only a transfer changes the roles. -/
theorem DecisionSent.transfer_of_ne (h : DecisionSent request past sent)
    (hne : sent.after.db.userRoles ≠ sent.before.db.userRoles) :
    ∃ row, SeenOpen request.id row past ∧ request.verdict = .approved ∧ past.length = 4 ∧
      sent.statement = executed (transferRoles row.newPubkey row.oldPubkey request.now) := by
  cases h with
  | read h => exact absurd (by rw [Sent.after, h]; rfl) hne
  | join row h => exact absurd (by rw [Sent.after, h]; rfl) hne
  | transfer row hrow happrove hplace h => exact ⟨row, hrow, happrove, hplace, h⟩
  | logout row h => exact absurd (by rw [Sent.after, h]; rfl) hne
  | decide h => exact absurd (by rw [Sent.after, h.statement]; rfl) hne

/-- Two rows of one request: what a decision does not touch agrees. -/
def SameParties (row row' : KeyRotationRow) : Prop :=
  row'.id = row.id ∧ row'.oldPubkey = row.oldPubkey ∧ row'.newPubkey = row.newPubkey

theorem SameParties.symm {row row' : KeyRotationRow} (h : SameParties row row') :
    SameParties row' row :=
  ⟨h.1.symm, h.2.1.symm, h.2.2.symm⟩

theorem SameParties.trans {row row' row'' : KeyRotationRow} (h : SameParties row row')
    (h' : SameParties row' row'') : SameParties row row'' :=
  ⟨h'.1.trans h.1, h'.2.1.trans h.2.1, h'.2.2.trans h.2.2⟩

theorem DecisionSent.parties (h : DecisionSent request past sent) {id : String}
    {row : KeyRotationRow} (hrow : sent.before.db.keyRotationRequests.find? id = some row) :
    ∃ row', sent.after.db.keyRotationRequests.find? id = some row' ∧ SameParties row row' := by
  rcases h.requests with hsame | hverdict
  · exact ⟨row, by rw [hsame, hrow], rfl, rfl, rfl⟩
  · rw [Sent.after, hverdict.statement]
    refine ⟨_, (find?_decideRequest ..).trans (by rw [hrow]; rfl), ?_⟩
    dsimp only
    split_ifs <;> exact ⟨rfl, rfl, rfl⟩

end Effects

end Voxply.Hub
