/-
# Recovery contacts and their threshold

A user stores up to five recovery contacts together with the number of them that
has to attest.  The checks compare the threshold with the length of the
submitted list, while the table keeps one row per contact; and a contact can be
deleted without regard to the threshold.  The stored threshold can be reached by
the stored contacts exactly as long as neither makes a difference.
-/

import Voxply.Hub.Recovery

namespace Voxply.Hub

open Voxply.Math

/-! ## The handlers -/

structure SetContactsRequest where
  contacts : List String
  threshold : UInt32
  deriving DecidableEq

/-- `INSERT INTO recovery_settings … ON CONFLICT(owner_pubkey) DO UPDATE SET
threshold = excluded.threshold`. -/
def upsertRecoverySetting (row : RecoverySettingRow) (db : Db) : Db :=
  { db with
    recoverySettings := db.recoverySettings.upsert row
      (fun old => { old with threshold := row.threshold }) fun _ => rfl }

/-- `DELETE FROM recovery_contacts WHERE owner_pubkey = ?`. -/
def deleteRecoveryContacts (owner : String) (db : Db) : Db :=
  { db with recoveryContacts := db.recoveryContacts.keep (·.ownerPubkey ≠ owner) }

/-- `INSERT OR IGNORE INTO recovery_contacts`. -/
def insertRecoveryContact (row : RecoveryContactRow) (db : Db) : Db :=
  { db with recoveryContacts := db.recoveryContacts.insertOrIgnore row }

/-- `DELETE FROM recovery_contacts WHERE owner_pubkey = ? AND contact_pubkey = ?`. -/
def deleteRecoveryContact (owner pubkey : String) (db : Db) : Db :=
  { db with
    recoveryContacts := db.recoveryContacts.keep fun row =>
      ¬ (row.ownerPubkey = owner ∧ row.contactPubkey = pubkey) }

/-- `put_contacts`. -/
def putContacts (now : Int) (user : String) (req : SetContactsRequest) : Handler StatusCode := do
  .ensure (req.contacts.length ≤ 5) ⟨.badRequest, "Maximum 5 recovery contacts"⟩
  .ensure (req.threshold ≠ 0 ∧ req.threshold.toNat ≤ req.contacts.length)
    ⟨.badRequest, "threshold must be between 1 and the number of contacts"⟩
  -- Contacts must be distinct from the owner.
  .ensure (user ∉ req.contacts) ⟨.badRequest, "You cannot be your own recovery contact"⟩
  write (upsertRecoverySetting ⟨user, req.threshold.toNat, now⟩)
  -- Replace the contact list: delete old, insert new.
  write (deleteRecoveryContacts user)
  .each req.contacts fun contact => write (insertRecoveryContact ⟨user, contact, now⟩)
  pure .ok

/-- `delete_contact`. -/
def deleteContact (user pubkey : String) : Handler StatusCode := do
  write (deleteRecoveryContact user pubkey)
  pure .ok

/-! ## Stored contacts -/

/-- The contacts stored for an owner. -/
def Db.contactsOf (db : Db) (owner : String) : List String :=
  (db.recoveryContacts.rows.filter (·.ownerPubkey = owner)).map (·.contactPubkey)

/-- If the owner has a threshold, it is at least one, there are enough contacts
for it and at most five, and the owner is not among them. -/
def Db.Recoverable (db : Db) (owner : String) : Prop :=
  ∀ setting, db.recoverySettings.find? owner = some setting →
    1 ≤ setting.threshold ∧ setting.threshold ≤ (db.contactsOf owner).length ∧
      (db.contactsOf owner).length ≤ 5 ∧ owner ∉ db.contactsOf owner

section Contacts

variable {db : Db} {owner : String}

theorem mem_contactsOf {contact : String} :
    contact ∈ db.contactsOf owner ↔ db.recoveryContacts.has (owner, contact) = true := by
  simp [Db.contactsOf, Table.has, RecoveryContactRow.key, and_assoc]

/-- The primary key lets a contact occur once. -/
theorem nodup_contactsOf (db : Db) (owner : String) : (db.contactsOf owner).Nodup := by
  have hkeys : ((db.recoveryContacts.rows.filter (·.ownerPubkey = owner)).map
      RecoveryContactRow.key).Nodup :=
    (db.recoveryContacts.keep (·.ownerPubkey = owner)).nodup
  have hpair : (db.contactsOf owner).map (owner, ·) =
      (db.recoveryContacts.rows.filter (·.ownerPubkey = owner)).map RecoveryContactRow.key := by
    rw [Db.contactsOf, List.map_map]
    apply List.map_congr_left
    intro row hrow
    have howner := (List.mem_filter.mp hrow).2
    simp only [decide_eq_true_eq] at howner
    simp [RecoveryContactRow.key, howner]
  rw [← hpair] at hkeys
  exact hkeys.of_map

/-- There are as many contacts stored as there are distinct ones in a list with
the same members. -/
theorem length_contactsOf {contacts : List String}
    (h : ∀ contact, contact ∈ db.contactsOf owner ↔ contact ∈ contacts) :
    (db.contactsOf owner).length = contacts.dedup.length := by
  apply List.Perm.length_eq
  rw [List.perm_ext_iff_of_nodup (nodup_contactsOf db owner) (List.nodup_dedup contacts)]
  intro contact
  rw [List.mem_dedup, h]

/-- What matters are the owner's threshold and who is a contact. -/
theorem recoverable_congr {db' : Db}
    (hsetting : db'.recoverySettings.find? owner = db.recoverySettings.find? owner)
    (hcontacts : ∀ contact, contact ∈ db'.contactsOf owner ↔ contact ∈ db.contactsOf owner) :
    db'.Recoverable owner ↔ db.Recoverable owner := by
  have hlength : (db'.contactsOf owner).length = (db.contactsOf owner).length := by
    rw [length_contactsOf hcontacts, List.dedup_eq_self.mpr (nodup_contactsOf db owner)]
  rw [Db.Recoverable, Db.Recoverable, hsetting, hlength, hcontacts]

end Contacts

/-! ## Effects -/

/-- What passes the checks of `put_contacts`. -/
def SetContactsRequest.Accepted (req : SetContactsRequest) (user : String) : Prop :=
  req.contacts.length ≤ 5 ∧ (req.threshold ≠ 0 ∧ req.threshold.toNat ≤ req.contacts.length) ∧
    user ∉ req.contacts

instance (req : SetContactsRequest) (user : String) : Decidable (req.Accepted user) :=
  inferInstanceAs (Decidable (_ ∧ _ ∧ _))

/-- The store after an accepted request. -/
def SetContactsRequest.stored (req : SetContactsRequest) (now : Int) (user : String) (db : Db) :
    Db :=
  req.contacts.foldl (fun db contact => insertRecoveryContact ⟨user, contact, now⟩ db)
    (deleteRecoveryContacts user
      (upsertRecoverySetting ⟨user, req.threshold.toNat, now⟩ db))

section Effects

variable {db : Db} {user owner : String} {now : Int} {req : SetContactsRequest} {s : AppState}

theorem run_putContacts_of_accepted (h : req.Accepted user) :
    (putContacts now user req).run s = (.ok .ok, s.withDb (req.stored now user s.db)) := by
  unfold putContacts
  rw [Prog.run_bind_of_ok (Prog.run_ensure_of_pos h.1 _ s),
    Prog.run_bind_of_ok (Prog.run_ensure_of_pos h.2.1 _ s),
    Prog.run_bind_of_ok (Prog.run_ensure_of_pos h.2.2 _ s),
    Prog.run_bind_of_ok (run_write _ s), Prog.run_bind_of_ok (run_write _ _),
    Prog.run_bind_of_ok (run_each_write _ _ _)]
  rfl

/-- A request that does not pass leaves the store alone. -/
theorem run_putContacts_of_refused (h : ¬ req.Accepted user) :
    ((putContacts now user req).run s).2 = s := by
  unfold putContacts
  by_cases hlength : req.contacts.length ≤ 5
  · rw [Prog.run_bind_of_ok (Prog.run_ensure_of_pos hlength _ s)]
    by_cases hthreshold : req.threshold ≠ 0 ∧ req.threshold.toNat ≤ req.contacts.length
    · rw [Prog.run_bind_of_ok (Prog.run_ensure_of_pos hthreshold _ s)]
      have howner : ¬ user ∉ req.contacts := fun howner => h ⟨hlength, hthreshold, howner⟩
      rw [Prog.run_bind_of_error (Prog.run_ensure_of_neg howner _ s)]
    · rw [Prog.run_bind_of_error (Prog.run_ensure_of_neg hthreshold _ s)]
  · rw [Prog.run_bind_of_error (Prog.run_ensure_of_neg hlength _ s)]

theorem find?_stored (owner : String) :
    (req.stored now user db).recoverySettings.find? owner =
      if owner = user then
        some (((db.recoverySettings.find? owner).map fun old =>
          { old with threshold := (req.threshold.toNat : Int) }).getD
            ⟨user, req.threshold.toNat, now⟩)
      else db.recoverySettings.find? owner := by
  have hloop : ∀ (contacts : List String) (db : Db),
      (contacts.foldl (fun db contact => insertRecoveryContact ⟨user, contact, now⟩ db)
        db).recoverySettings = db.recoverySettings := by
    intro contacts
    induction contacts with
    | nil => exact fun _ => rfl
    | cons contact rest ih => exact fun db => ih _
  rw [SetContactsRequest.stored, hloop]
  exact Table.find?_upsert ..

theorem has_stored (owner contact : String) :
    (req.stored now user db).recoveryContacts.has (owner, contact) = true ↔
      if owner = user then contact ∈ req.contacts
      else db.recoveryContacts.has (owner, contact) = true := by
  have hloop : ∀ (contacts : List String) (db : Db),
      (contacts.foldl (fun db contact => insertRecoveryContact ⟨user, contact, now⟩ db)
        db).recoveryContacts.has (owner, contact) = true ↔
      db.recoveryContacts.has (owner, contact) = true ∨ (owner = user ∧ contact ∈ contacts) := by
    intro contacts
    induction contacts with
    | nil => simp
    | cons first rest ih =>
        intro db
        rw [List.foldl_cons, ih, insertRecoveryContact, Table.has_insertOrIgnore,
          RecoveryContactRow.key]
        simp only [Prod.mk.injEq, List.mem_cons]
        tauto
  have hdeleted : (deleteRecoveryContacts user (upsertRecoverySetting
      ⟨user, req.threshold.toNat, now⟩ db)).recoveryContacts.has (owner, contact) = true ↔
      db.recoveryContacts.has (owner, contact) = true ∧ owner ≠ user := by
    rw [Table.has_iff, Table.has_iff]
    simp only [deleteRecoveryContacts, upsertRecoverySetting, Table.rows_keep, List.mem_filter,
      decide_eq_true_eq, RecoveryContactRow.key, Prod.mk.injEq]
    constructor
    · rintro ⟨row, ⟨hrow, hne⟩, rfl, rfl⟩
      exact ⟨⟨row, hrow, rfl, rfl⟩, hne⟩
    · rintro ⟨⟨row, hrow, rfl, rfl⟩, hne⟩
      exact ⟨row, ⟨hrow, hne⟩, rfl, rfl⟩
  rw [SetContactsRequest.stored, hloop, hdeleted]
  split_ifs with howner
  · simp [howner]
  · simp [howner]

/-- The contacts of the user are replaced, those of others stay. -/
theorem mem_contactsOf_stored (owner contact : String) :
    contact ∈ (req.stored now user db).contactsOf owner ↔
      if owner = user then contact ∈ req.contacts else contact ∈ db.contactsOf owner := by
  rw [mem_contactsOf, has_stored, mem_contactsOf]

theorem mem_contactsOf_deleteRecoveryContact (pubkey owner contact : String) :
    contact ∈ (deleteRecoveryContact user pubkey db).contactsOf owner ↔
      contact ∈ db.contactsOf owner ∧ ¬ (owner = user ∧ contact = pubkey) := by
  simp only [Db.contactsOf, deleteRecoveryContact, Table.rows_keep, List.mem_map, List.mem_filter,
    decide_eq_true_eq]
  constructor
  · rintro ⟨row, ⟨⟨hrow, hkept⟩, rfl⟩, rfl⟩
    exact ⟨⟨row, ⟨hrow, rfl⟩, rfl⟩, hkept⟩
  · rintro ⟨⟨row, ⟨hrow, rfl⟩, rfl⟩, hkept⟩
    exact ⟨row, ⟨⟨hrow, hkept⟩, rfl⟩, rfl⟩

/-- Deleting a stored contact leaves one less. -/
theorem length_contactsOf_deleteRecoveryContact (pubkey : String) :
    ((deleteRecoveryContact user pubkey db).contactsOf user).length =
      ((db.contactsOf user).erase pubkey).length := by
  have hnodup := (nodup_contactsOf db user).erase pubkey
  rw [length_contactsOf, List.dedup_eq_self.mpr hnodup]
  intro contact
  rw [mem_contactsOf_deleteRecoveryContact, (nodup_contactsOf db user).mem_erase_iff]
  tauto

end Effects

/-! ## Requests one after the other -/

inductive ContactRequest where
  | put (now : Int) (user : String) (req : SetContactsRequest)
  | delete (user pubkey : String)
  deriving DecidableEq

def ContactRequest.handler : ContactRequest → Handler StatusCode
  | .put now user req => putContacts now user req
  | .delete user pubkey => deleteContact user pubkey

def ContactRequest.exec (request : ContactRequest) (s : AppState) : AppState :=
  (request.handler.run s).2

/-- An accepted list has as many distinct contacts as the threshold asks for; a
contact is only deleted while there are more than that. -/
def ContactRequest.KeepsThreshold : ContactRequest → AppState → Prop
  | .put _ user req, _ => req.Accepted user → req.threshold.toNat ≤ req.contacts.dedup.length
  | .delete user pubkey, s => pubkey ∈ s.db.contactsOf user →
      ∀ setting ∈ s.db.recoverySettings.rows, setting.ownerPubkey = user →
        setting.threshold < (s.db.contactsOf user).length

instance : ∀ (request : ContactRequest) (s : AppState), Decidable (request.KeepsThreshold s)
  | .put .., _ => inferInstanceAs (Decidable (_ → _))
  | .delete .., _ => inferInstanceAs (Decidable (_ → _))

section Step

variable {s : AppState}

/-- An accepted list leaves enough contacts exactly if enough of them are
distinct. -/
theorem recoverable_put_iff {now : Int} {user : String} {req : SetContactsRequest}
    (hs : ∀ owner, s.db.Recoverable owner) (haccepted : req.Accepted user) :
    (∀ owner, (req.stored now user s.db).Recoverable owner) ↔
      req.threshold.toNat ≤ req.contacts.dedup.length := by
  have hlength : ((req.stored now user s.db).contactsOf user).length =
      req.contacts.dedup.length := by
    apply length_contactsOf
    intro contact
    rw [mem_contactsOf_stored, if_pos rfl]
  have hsetting : ∃ setting, (req.stored now user s.db).recoverySettings.find? user =
      some setting ∧ setting.threshold = req.threshold.toNat := by
    refine ⟨_, by rw [find?_stored, if_pos rfl], ?_⟩
    cases s.db.recoverySettings.find? user <;> rfl
  obtain ⟨setting, hfind, hthreshold⟩ := hsetting
  constructor
  · intro h
    have henough := (h user setting hfind).2.1
    rw [hthreshold, hlength] at henough
    exact_mod_cast henough
  · intro henough owner
    by_cases howner : owner = user
    · subst howner
      intro setting' hsetting'
      rw [hfind] at hsetting'
      cases hsetting'
      obtain ⟨hfive, ⟨hzero, -⟩, hself⟩ := haccepted
      have hpositive : 0 < req.threshold.toNat := by
        rw [Nat.pos_iff_ne_zero]
        exact fun hnat => hzero (UInt32.toNat_inj.mp hnat)
      have hdedup : req.contacts.dedup.length ≤ req.contacts.length :=
        (List.dedup_sublist req.contacts).length_le
      rw [hthreshold, hlength]
      refine ⟨by omega, by omega, by omega, ?_⟩
      rw [mem_contactsOf_stored, if_pos rfl]
      exact hself
    · apply (recoverable_congr _ _).mpr (hs owner)
      · rw [find?_stored, if_neg howner]
      · intro contact
        rw [mem_contactsOf_stored, if_neg howner]

/-- Deleting a contact leaves enough exactly if there were more than enough or
it was none. -/
theorem recoverable_delete_iff {user pubkey : String} (hs : ∀ owner, s.db.Recoverable owner) :
    (∀ owner, (deleteRecoveryContact user pubkey s.db).Recoverable owner) ↔
      ContactRequest.KeepsThreshold (.delete user pubkey) s := by
  have hlength : ((deleteRecoveryContact user pubkey s.db).contactsOf user).length = _ :=
    length_contactsOf_deleteRecoveryContact pubkey
  constructor
  · intro h hcontact setting hsetting howner
    have hfind := Table.find?_eq_some_iff.mpr ⟨hsetting, howner⟩
    have henough := (h user setting hfind).2.1
    have hpositive := List.length_pos_of_mem hcontact
    rw [hlength, List.length_erase_of_mem hcontact] at henough
    omega
  · intro h owner
    by_cases hcontact : owner = user ∧ pubkey ∈ s.db.contactsOf user
    · obtain ⟨rfl, hcontact⟩ := hcontact
      intro setting hfind
      obtain ⟨hsetting, howner⟩ := Table.find?_eq_some_iff.mp hfind
      obtain ⟨hone, -, hfive, hself⟩ := hs owner setting hfind
      have hmore := h hcontact setting hsetting howner
      have hpositive := List.length_pos_of_mem hcontact
      rw [hlength, List.length_erase_of_mem hcontact, mem_contactsOf_deleteRecoveryContact]
      refine ⟨hone, by omega, by omega, fun hmem => hself hmem.1⟩
    · apply (recoverable_congr _ _).mpr (hs owner)
      · rfl
      · intro contact
        rw [mem_contactsOf_deleteRecoveryContact]
        refine and_iff_left_of_imp fun hmem => ?_
        rintro ⟨rfl, rfl⟩
        exact hcontact ⟨rfl, hmem⟩

/-- One request keeps every owner recoverable exactly under its condition. -/
theorem ContactRequest.recoverable_exec_iff (request : ContactRequest)
    (hs : ∀ owner, s.db.Recoverable owner) :
    (∀ owner, (request.exec s).db.Recoverable owner) ↔ request.KeepsThreshold s := by
  cases request with
  | put now user req =>
      change (∀ owner, ((putContacts now user req).run s).2.db.Recoverable owner) ↔
        (req.Accepted user → _)
      by_cases haccepted : req.Accepted user
      · rw [run_putContacts_of_accepted haccepted, withDb_db, recoverable_put_iff hs haccepted,
          imp_iff_right haccepted]
      · rw [run_putContacts_of_refused haccepted]
        exact iff_of_true hs fun h => absurd h haccepted
  | delete user pubkey => exact recoverable_delete_iff hs

end Step

/-! ## Completing a recovery -/

/-- A rotation request with an attestation of every stored contact. -/
def Db.fullRequest (db : Db) (owner newPubkey : String) (sign : String → String) :
    RotateKeyRequest where
  oldPubkey := owner
  newPubkey := newPubkey
  attestations := (db.contactsOf owner).map fun contact => ⟨contact, sign contact⟩

/-- Any new key that is not itself a contact is put up for review when all
stored contacts attest for it. -/
def AppState.RecoveryCompletes (s : AppState) (owner : String) : Prop :=
  s.db.recoverySettings.has owner = true →
    ∀ requestId freshId now newPubkey sign, FreshIds s.db requestId freshId → newPubkey ≠ owner →
      newPubkey ∉ s.db.contactsOf owner →
      ∃ response, ((postRotateKey requestId freshId now
          (s.db.fullRequest owner newPubkey sign)).run s).1 = .ok (.created, response) ∧
        response.status = .readyForReview

/-- All attestations of a full request count. -/
theorem validCount_fullRequest {db : Db} {owner newPubkey : String} {sign : String → String}
    (hself : owner ∉ db.contactsOf owner) (hnew : newPubkey ∉ db.contactsOf owner) :
    db.validCount (db.fullRequest owner newPubkey sign) = (db.contactsOf owner).length := by
  rw [Db.validCount, List.filter_eq_self.mpr, Db.fullRequest, List.length_map]
  intro att hatt
  obtain ⟨contact, hcontact, rfl⟩ := List.mem_map.mp hatt
  rw [decide_eq_true_eq]
  refine ⟨?_, ?_, mem_contactsOf.mp hcontact⟩
  · rintro rfl
    exact hself hcontact
  · rintro rfl
    exact hnew hcontact

theorem Db.Recoverable.completes {s : AppState} {owner : String} (h : s.db.Recoverable owner) :
    s.RecoveryCompletes owner := by
  intro howner requestId freshId now newPubkey sign fresh hne hnew
  obtain ⟨setting, hsetting, hkey⟩ := Table.has_iff.mp howner
  have hfind := Table.find?_eq_some_iff.mpr ⟨hsetting, hkey⟩
  obtain ⟨-, henough, -, hself⟩ := h setting hfind
  rcases @run_postRotateKey s requestId freshId now (s.db.fullRequest owner newPubkey sign) fresh
    with ⟨e, -, hnone | hsame⟩ | ⟨setting', status, requests, hsetting', hstatus, -, hrun⟩
  · exact absurd (hfind.symm.trans hnone) (by simp)
  · exact absurd hsame hne
  · rw [hrun]
    refine ⟨_, rfl, hstatus.mpr ?_⟩
    cases hfind.symm.trans hsetting'
    rw [validCount_fullRequest hself hnew]
    exact henough

/-- **Recovery contacts.** Along any sequence of requests from a state in which
every owner's threshold is within reach, it stays within reach in every state
exactly if every request meets its condition; and where it is, the stored
contacts can complete a recovery. -/
theorem recoverable_iff (requests : List ContactRequest) (s : AppState)
    (hs : ∀ owner, s.db.Recoverable owner) :
    ((∀ first, first <+: requests →
        ∀ owner, (runAll ContactRequest.exec first s).db.Recoverable owner) ↔
      Along ContactRequest.exec ContactRequest.KeepsThreshold requests s) ∧
    (Along ContactRequest.exec ContactRequest.KeepsThreshold requests s →
      ∀ first, first <+: requests →
        ∀ owner, (runAll ContactRequest.exec first s).RecoveryCompletes owner) := by
  have hiff := @Along.invariant_iff _ _ ContactRequest.exec ContactRequest.KeepsThreshold
    (fun s => ∀ owner, s.db.Recoverable owner) (fun request _ => request.recoverable_exec_iff)
    requests s hs
  exact ⟨hiff, fun h first hfirst owner => (hiff.mpr h first hfirst owner).completes⟩

/-- Three contacts, two of which have to attest, and one is deleted. -/
def spareContact : List ContactRequest :=
  [.put 1 "owner" ⟨["a", "b", "c"], 2⟩, .delete "owner" "c"]

theorem recoverable_iff_spareContact :
    ((runAll ContactRequest.exec spareContact {}).db.contactsOf "owner" = ["a", "b"] ∧
      (runAll ContactRequest.exec spareContact {}).db.recoverySettings.has "owner" = true) ∧
    ∀ owner, (runAll ContactRequest.exec spareContact {}).db.Recoverable owner := by
  have hstart : ∀ owner, ({} : AppState).db.Recoverable owner :=
    fun owner setting hsetting => nomatch hsetting
  have hresult := (recoverable_iff spareContact {} hstart).1.mpr (by decide +kernel)
  exact ⟨by decide +kernel, hresult spareContact (List.prefix_refl _)⟩

/-- A contact that is named twice is stored once, and a contact that is needed
can be deleted. -/
theorem thresholds_out_of_reach :
    ¬ (runAll ContactRequest.exec [.put 1 "owner" ⟨["a", "a"], 2⟩] {}).db.Recoverable "owner" ∧
    ¬ (runAll ContactRequest.exec [.put 1 "owner" ⟨["a", "b"], 2⟩, .delete "owner" "a"]
      {}).db.Recoverable "owner" := by
  constructor
  · intro h
    exact absurd (h ⟨"owner", 2, 1⟩ (by decide +kernel)).2.1 (by decide +kernel)
  · intro h
    exact absurd (h ⟨"owner", 2, 1⟩ (by decide +kernel)).2.1 (by decide +kernel)

end Voxply.Hub
