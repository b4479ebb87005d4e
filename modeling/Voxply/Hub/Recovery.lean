/-
# Recovery contacts and key rotation requests

A user names recovery contacts and a threshold.  Someone who has lost their key
opens a rotation request for a new one and encloses attestations of contacts;
the request is put up for review when enough of them count.  The handler stores
one row per attester and counts every attestation it accepts, without checking
the enclosed signatures.
-/

import Voxply.Hub.Roles
import Voxply.Identity.Signature

namespace Voxply.Hub

open Voxply.Math Voxply.Identity

/-! ## The handler -/

structure AttestationInput where
  attester : String
  signature : String
  deriving DecidableEq

structure RotateKeyRequest where
  oldPubkey : String
  newPubkey : String
  reason : Option String := none
  attestations : List AttestationInput

/-- The row of the request itself. -/
def RotateKeyRequest.row (req : RotateKeyRequest) (requestId : String) (now : Int)
    (status : RotationStatus) : KeyRotationRow :=
  { id := requestId, oldPubkey := req.oldPubkey, newPubkey := req.newPubkey,
    reason := req.reason, status := status, createdAt := now }

structure RotationRequestResponse where
  id : String
  oldPubkey : String
  newPubkey : String
  status : RotationStatus
  createdAt : Int
  attestationCount : Int
  deriving DecidableEq

/-- The store with the two tables of rotation requests replaced. -/
def Db.withRotations (db : Db) (requests : Table KeyRotationRow KeyRotationRow.id)
    (attestations : Table RotationAttestationRow RotationAttestationRow.id) : Db :=
  { db with keyRotationRequests := requests, rotationAttestations := attestations }

/-- `INSERT INTO key_rotation_requests`. -/
def insertKeyRotationRequest (row : KeyRotationRow) (db : Db) : Except SqlError Db :=
  match db.keyRotationRequests.insert? row with
  | none => .error (.primaryKey "key_rotation_requests.id")
  | some requests => .ok (db.withRotations requests db.rotationAttestations)

/-- `INSERT OR IGNORE INTO rotation_attestations`: nothing happens when the
attester already has a row for the request, or when the identifier is taken. -/
def attestRow (row : RotationAttestationRow)
    (table : Table RotationAttestationRow RotationAttestationRow.id) :
    Table RotationAttestationRow RotationAttestationRow.id :=
  if table.rows.any (fun old =>
      old.requestId = row.requestId ∧ old.attesterPubkey = row.attesterPubkey) then table
  else table.insertOrIgnore row

def attest (row : RotationAttestationRow) (db : Db) : Db :=
  db.withRotations db.keyRotationRequests (attestRow row db.rotationAttestations)

/-- `UPDATE key_rotation_requests SET status = 'ready_for_review' WHERE id = ?`. -/
def readyForReview (requestId : String) (db : Db) : Db :=
  db.withRotations
    (db.keyRotationRequests.update (·.id = requestId)
      (fun row => { row with status := .readyForReview }) fun _ => rfl)
    db.rotationAttestations

/-- The loop over the enclosed attestations. Identifiers of new rows are drawn
by position; the accumulator is `valid_count`. -/
def storeAttestations (freshId : ℕ → String) (requestId : String) (now : Int)
    (oldPubkey newPubkey : String) : ℕ → List AttestationInput → Int → Handler Int
  | _, [], validCount => pure validCount
  | n, att :: rest, validCount =>
      -- Self-attestation guard: neither of the two keys may attest.
      if att.attester = oldPubkey ∨ att.attester = newPubkey then
        storeAttestations freshId requestId now oldPubkey newPubkey (n + 1) rest validCount
      else do
        let isContact ← fetch fun db => db.recoveryContacts.has (oldPubkey, att.attester)
        if isContact then do
          write (attest ⟨freshId n, requestId, att.attester, att.signature, now⟩)
          storeAttestations freshId requestId now oldPubkey newPubkey (n + 1) rest
            (validCount + 1)
        else
          storeAttestations freshId requestId now oldPubkey newPubkey (n + 1) rest validCount

/-- Flip the request to `ready_for_review` if the threshold is reached. -/
def reviewStatus (requestId : String) (validCount threshold : Int) : Handler RotationStatus :=
  if validCount ≥ threshold then do
    write (readyForReview requestId)
    pure .readyForReview
  else pure .pending

/-- `post_rotate_key`. The identifiers and the clock reading are arguments. -/
def postRotateKey (requestId : String) (freshId : ℕ → String) (now : Int)
    (req : RotateKeyRequest) : Handler (StatusCode × RotationRequestResponse) := do
  let setting ← fetch (·.recoverySettings.find? req.oldPubkey)
  let threshold ← .ofExcept (setting.elim
    (.error ⟨.badRequest, "The old pubkey has no recovery contacts configured on this hub"⟩)
    fun row => .ok row.threshold)
  .ensure (req.newPubkey ≠ req.oldPubkey)
    ⟨.badRequest, "new_pubkey must differ from old_pubkey"⟩
  execute (insertKeyRotationRequest (req.row requestId now .pending))
  let validCount ← storeAttestations freshId requestId now req.oldPubkey req.newPubkey 0
    req.attestations 0
  let status ← reviewStatus requestId validCount threshold
  pure (.created, ⟨requestId, req.oldPubkey, req.newPubkey, status, now, validCount⟩)

/-! ## What an administrator is shown -/

structure PendingRequestAdmin where
  id : String
  oldPubkey : String
  newPubkey : String
  reason : Option String
  status : RotationStatus
  createdAt : Int
  attestationCount : Int
  deriving DecidableEq

/-- The rows stored for a request, as the join on `request_id` finds them. -/
def Db.attestationsFor (db : Db) (requestId : String) : List RotationAttestationRow :=
  db.rotationAttestations.rows.filter (·.requestId = requestId)

/-- The listing query: open requests with their number of attestations, newest
first. -/
def Db.pendingRequests (db : Db) : List PendingRequestAdmin :=
  ((db.keyRotationRequests.rows.filter fun row =>
      row.status = .readyForReview ∨ row.status = .pending).map fun row =>
    ⟨row.id, row.oldPubkey, row.newPubkey, row.reason, row.status, row.createdAt,
      (db.attestationsFor row.id).length⟩).mergeSort fun first second =>
    second.createdAt ≤ first.createdAt

def adminListPending (user : String) : Handler (List PendingRequestAdmin) := do
  let perms ← userPermissions user
  .ofExcept (perms.require admin)
  fetch (·.pendingRequests)

/-! ## What the loop stores -/

/-- An attestation that counts: from a contact of the old key, and neither key
attests for itself. -/
def Db.Eligible (db : Db) (oldPubkey newPubkey : String) (att : AttestationInput) : Prop :=
  att.attester ≠ oldPubkey ∧ att.attester ≠ newPubkey ∧
    db.recoveryContacts.has (oldPubkey, att.attester) = true

instance (db : Db) (oldPubkey newPubkey : String) :
    DecidablePred (db.Eligible oldPubkey newPubkey) :=
  fun _ => inferInstanceAs (Decidable (_ ∧ _))

section Loop

variable (freshId : ℕ → String) (requestId : String) (now : Int)

/-- The rows that the loop leaves, given which attestations count. -/
def attestAll (counts : AttestationInput → Prop) [DecidablePred counts] :
    ℕ → List AttestationInput → Table RotationAttestationRow RotationAttestationRow.id →
      Table RotationAttestationRow RotationAttestationRow.id
  | _, [], table => table
  | n, att :: rest, table =>
      attestAll counts (n + 1) rest
        (if counts att then
          attestRow ⟨freshId n, requestId, att.attester, att.signature, now⟩ table
        else table)

variable {freshId requestId now}

/-- The loop counts the eligible attestations and stores `attestAll`. -/
theorem run_storeAttestations (oldPubkey newPubkey : String) (n : ℕ)
    (atts : List AttestationInput) (validCount : Int) (s : AppState) :
    (storeAttestations freshId requestId now oldPubkey newPubkey n atts validCount).run s =
      (.ok (validCount + (atts.filter (s.db.Eligible oldPubkey newPubkey)).length),
        s.withDb (s.db.withRotations s.db.keyRotationRequests
          (attestAll freshId requestId now (s.db.Eligible oldPubkey newPubkey) n atts
            s.db.rotationAttestations))) := by
  induction atts generalizing n validCount s with
  | nil =>
      rw [storeAttestations, attestAll, List.filter_nil, List.length_nil, Int.natCast_zero,
        Int.add_zero]
      rfl
  | cons att rest ih =>
      unfold storeAttestations
      by_cases hself : att.attester = oldPubkey ∨ att.attester = newPubkey
      · have hnot : ¬ s.db.Eligible oldPubkey newPubkey att := by
          rintro ⟨hold, hnew, -⟩
          exact hself.elim hold hnew
        rw [if_pos hself, ih]
        simp [attestAll, hnot]
      · rw [if_neg hself, Prog.run_bind_of_ok (run_fetch _ s)]
        by_cases hcontact : s.db.recoveryContacts.has (oldPubkey, att.attester) = true
        · have heligible : s.db.Eligible oldPubkey newPubkey att :=
            ⟨fun h => hself (.inl h), fun h => hself (.inr h), hcontact⟩
          rw [if_pos hcontact, Prog.run_bind_of_ok (run_write _ s), ih,
            List.filter_cons_of_pos (by simpa using heligible), List.length_cons, attestAll,
            if_pos heligible, Int.natCast_add, Int.add_comm _ ((1 : ℕ) : Int), ← Int.add_assoc]
          rfl
        · have hnot : ¬ s.db.Eligible oldPubkey newPubkey att := fun h => hcontact h.2.2
          rw [if_neg hcontact, ih]
          simp [attestAll, hnot]

/-- The attesters that have a row for the request. -/
def attesters (requestId : String)
    (table : Table RotationAttestationRow RotationAttestationRow.id) : List String :=
  (table.rows.filter (·.requestId = requestId)).map (·.attesterPubkey)

variable {counts : AttestationInput → Prop} [DecidablePred counts]
  {table : Table RotationAttestationRow RotationAttestationRow.id}

theorem mem_attesters {attester : String} :
    attester ∈ attesters requestId table ↔
      ∃ row ∈ table.rows, row.requestId = requestId ∧ row.attesterPubkey = attester := by
  simp [attesters, and_assoc]

/-- One insertion: a new attester gets a row when the identifier is free, and
nothing else happens. -/
theorem attestRow_cases (row : RotationAttestationRow)
    (table : Table RotationAttestationRow RotationAttestationRow.id) :
    attestRow row table = table ∨
      (row.attesterPubkey ∉ attesters row.requestId table ∧
        (attestRow row table).rows = table.rows ++ [row]) := by
  unfold attestRow
  split_ifs with htaken
  · exact .inl rfl
  · unfold Table.insertOrIgnore
    cases hinsert : table.insert? row with
    | none => exact .inl rfl
    | some table' =>
        right
        refine ⟨fun hmem => htaken ?_, (Table.insert?_eq_some_iff.mp hinsert).2⟩
        obtain ⟨old, hold, hrequest, hattester⟩ := mem_attesters.mp hmem
        simp only [List.any_eq_true, decide_eq_true_eq]
        exact ⟨old, hold, hrequest, hattester⟩

/-- With a free identifier the row of a new attester does go in. -/
theorem attestRow_of_fresh {row : RotationAttestationRow}
    (hid : ∀ old ∈ table.rows, old.id ≠ row.id)
    (hattester : row.attesterPubkey ∉ attesters row.requestId table) :
    (attestRow row table).rows = table.rows ++ [row] := by
  unfold attestRow
  rw [if_neg]
  · unfold Table.insertOrIgnore
    cases hinsert : table.insert? row with
    | none =>
        obtain ⟨old, hold, hkey⟩ := Table.insert?_eq_none_iff.mp hinsert
        exact absurd hkey (hid old hold)
    | some table' => exact (Table.insert?_eq_some_iff.mp hinsert).2
  · intro htaken
    simp only [List.any_eq_true, decide_eq_true_eq] at htaken
    obtain ⟨old, hold, hsame⟩ := htaken
    exact hattester (mem_attesters.mpr ⟨old, hold, hsame⟩)

theorem attesters_append {row : RotationAttestationRow}
    {table' : Table RotationAttestationRow RotationAttestationRow.id}
    (hrows : table'.rows = table.rows ++ [row]) (hrequest : row.requestId = requestId) :
    attesters requestId table' = attesters requestId table ++ [row.attesterPubkey] := by
  simp [attesters, hrows, hrequest]

/-- Every row of the result was there before or comes from an attestation that
counts. -/
theorem mem_attestAll {n : ℕ} {atts : List AttestationInput} {row : RotationAttestationRow}
    (hrow : row ∈ (attestAll freshId requestId now counts n atts table).rows) :
    row ∈ table.rows ∨ ∃ att ∈ atts, counts att ∧ row.requestId = requestId ∧
      row.attesterPubkey = att.attester := by
  induction atts generalizing n table with
  | nil => exact .inl hrow
  | cons att rest ih =>
      rcases ih hrow with hmem | ⟨other, hother, hcounts⟩
      · split_ifs at hmem with hcounts
        · rcases attestRow_cases ⟨freshId n, requestId, att.attester, att.signature, now⟩ table
            with heq | ⟨-, hrows⟩
          · exact .inl (heq ▸ hmem)
          · rw [hrows, List.mem_append, List.mem_singleton] at hmem
            rcases hmem with hmem | rfl
            · exact .inl hmem
            · exact .inr ⟨att, List.mem_cons_self, hcounts, rfl, rfl⟩
        · exact .inl hmem
      · exact .inr ⟨other, List.mem_cons_of_mem att hother, hcounts⟩

/-- No attester ever gets two rows for one request. -/
theorem nodup_attesters_attestAll {n : ℕ} {atts : List AttestationInput}
    (h : (attesters requestId table).Nodup) :
    (attesters requestId (attestAll freshId requestId now counts n atts table)).Nodup := by
  induction atts generalizing n table with
  | nil => exact h
  | cons att rest ih =>
      apply ih
      split_ifs
      · rcases attestRow_cases ⟨freshId n, requestId, att.attester, att.signature, now⟩ table
          with heq | ⟨hnew, hrows⟩
        · rwa [heq]
        · rw [attesters_append hrows rfl]
          refine List.nodup_append.mpr ⟨h, List.nodup_singleton _, ?_⟩
          intro first hfirst second hsecond heq
          rw [List.mem_singleton.mp hsecond] at heq
          exact hnew (heq ▸ hfirst)
      · exact h

/-- Without repeated attesters every attestation that counts gets its row. -/
theorem attesters_attestAll {n : ℕ} {atts : List AttestationInput}
    (hfresh : ∀ row ∈ table.rows, ∀ k, n ≤ k → row.id ≠ freshId k)
    (hinjective : Function.Injective freshId)
    (hnodup : (attesters requestId table ++ (atts.filter counts).map (·.attester)).Nodup) :
    attesters requestId (attestAll freshId requestId now counts n atts table) =
      attesters requestId table ++ (atts.filter counts).map (·.attester) := by
  induction atts generalizing n table with
  | nil => simp [attestAll]
  | cons att rest ih =>
      unfold attestAll
      by_cases hcounts : counts att
      · rw [if_pos hcounts]
        have hfilter : (att :: rest).filter counts = att :: rest.filter counts := by
          simp [hcounts]
        rw [hfilter, List.map_cons] at hnodup ⊢
        have hrows : (attestRow ⟨freshId n, requestId, att.attester, att.signature, now⟩
            table).rows = table.rows ++
            [⟨freshId n, requestId, att.attester, att.signature, now⟩] := by
          apply attestRow_of_fresh
          · exact fun old hold => hfresh old hold n (Nat.le_refl n)
          · intro hmem
            exact (List.nodup_append.mp hnodup).2.2 _ hmem _ List.mem_cons_self rfl
        have hattesters : attesters requestId (attestRow
            ⟨freshId n, requestId, att.attester, att.signature, now⟩ table) =
            attesters requestId table ++ [att.attester] :=
          attesters_append hrows rfl
        rw [ih, hattesters, List.append_assoc, List.singleton_append]
        · intro row hrow k hk
          rw [hrows, List.mem_append, List.mem_singleton] at hrow
          rcases hrow with hrow | rfl
          · exact hfresh row hrow k (Nat.le_of_succ_le hk)
          · intro heq
            have := hinjective heq
            omega
        · rw [hattesters, List.append_assoc, List.singleton_append]
          exact hnodup
      · rw [if_neg hcounts]
        have hfilter : (att :: rest).filter counts = rest.filter counts := by
          simp [hcounts]
        rw [hfilter] at hnodup ⊢
        exact ih (fun row hrow k hk => hfresh row hrow k (Nat.le_of_succ_le hk)) hnodup

end Loop

/-! ## The request as a whole -/

/-- What the program relies on when it draws random identifiers: they do not
occur yet and do not repeat. -/
structure FreshIds (db : Db) (requestId : String) (freshId : ℕ → String) : Prop where
  request : db.keyRotationRequests.has requestId = false
  attestations : ∀ row ∈ db.rotationAttestations.rows, row.requestId ≠ requestId
  ids : ∀ row ∈ db.rotationAttestations.rows, ∀ k, row.id ≠ freshId k
  injective : Function.Injective freshId

section Request

variable {s : AppState} {requestId : String} {freshId : ℕ → String} {now : Int}
  {req : RotateKeyRequest}

/-- The number of enclosed attestations that count. -/
def Db.validCount (db : Db) (req : RotateKeyRequest) : ℕ :=
  (req.attestations.filter (db.Eligible req.oldPubkey req.newPubkey)).length

/-- The rows of `rotation_attestations` after the request. -/
def Db.attested (db : Db) (requestId : String) (freshId : ℕ → String) (now : Int)
    (req : RotateKeyRequest) : Table RotationAttestationRow RotationAttestationRow.id :=
  attestAll freshId requestId now (db.Eligible req.oldPubkey req.newPubkey) 0
    req.attestations db.rotationAttestations

theorem insertKeyRotationRequest_of_free {db : Db} {row : KeyRotationRow}
    (hfree : db.keyRotationRequests.has row.id = false) :
    ∃ requests,
      insertKeyRotationRequest row db = .ok (db.withRotations requests db.rotationAttestations) ∧
      requests.rows = db.keyRotationRequests.rows ++ [row] := by
  obtain ⟨requests, hinsert, hrows⟩ := Table.insert?_of_free hfree
  refine ⟨requests, ?_, hrows⟩
  rw [insertKeyRotationRequest, hinsert]

/-- Only the new row is flipped. -/
theorem rows_update_status {requests : Table KeyRotationRow KeyRotationRow.id}
    {table : Table KeyRotationRow KeyRotationRow.id}
    (hfree : table.has requestId = false)
    (hrows : requests.rows = table.rows ++ [req.row requestId now .pending]) :
    (requests.update (·.id = requestId) (fun row => { row with status := .readyForReview })
      fun _ => rfl).rows = table.rows ++ [req.row requestId now .readyForReview] := by
  rw [Table.rows_update, hrows, List.map_append]
  have hold : ∀ row ∈ table.rows, row.id ≠ requestId := Table.has_eq_false_iff.mp hfree
  congr 1
  · rw [List.map_congr_left (g := id), List.map_id]
    intro row hrow
    simp [hold row hrow]
  · simp [RotateKeyRequest.row]

/-- A request is refused without a trace, or it is stored together with its
attestations and answered with its count and status. -/
theorem run_postRotateKey (fresh : FreshIds s.db requestId freshId) :
    (∃ e, (postRotateKey requestId freshId now req).run s = (.error e, s) ∧
      (s.db.recoverySettings.find? req.oldPubkey = none ∨ req.newPubkey = req.oldPubkey)) ∨
    ∃ setting status requests,
      s.db.recoverySettings.find? req.oldPubkey = some setting ∧
      (status = .readyForReview ↔ setting.threshold ≤ s.db.validCount req) ∧
      requests.rows = s.db.keyRotationRequests.rows ++ [req.row requestId now status] ∧
      (postRotateKey requestId freshId now req).run s =
        (.ok (.created, ⟨requestId, req.oldPubkey, req.newPubkey, status, now,
          s.db.validCount req⟩),
        s.withDb (s.db.withRotations requests (s.db.attested requestId freshId now req))) := by
  unfold postRotateKey
  rw [Prog.run_bind_of_ok (run_fetch _ s)]
  cases hsetting : s.db.recoverySettings.find? req.oldPubkey with
  | none => exact .inl ⟨_, rfl, .inl rfl⟩
  | some setting =>
      rw [Option.elim_some, Prog.run_bind_of_ok (Prog.run_ofExcept _ s)]
      by_cases hne : req.newPubkey ≠ req.oldPubkey
      · right
        have hfree : s.db.keyRotationRequests.has (req.row requestId now .pending).id = false :=
          fresh.request
        obtain ⟨requests, hinsert, hrows⟩ := insertKeyRotationRequest_of_free hfree
        rw [Prog.run_bind_of_ok (Prog.run_ensure_of_pos hne _ s),
          Prog.run_bind_of_ok (run_execute_of_ok hinsert),
          Prog.run_bind_of_ok (run_storeAttestations ..), Int.zero_add]
        by_cases hready : (s.db.validCount req : Int) ≥ setting.threshold
        · refine ⟨setting, .readyForReview, _, rfl, ⟨fun _ => hready, fun _ => rfl⟩,
            rows_update_status fresh.request hrows, ?_⟩
          have hstatus : ∀ t, (reviewStatus requestId (s.db.validCount req) setting.threshold).run
              t = (.ok .readyForReview, t.withDb (readyForReview requestId t.db)) := by
            intro t
            rw [reviewStatus, if_pos hready]
            rfl
          exact Prog.run_bind_of_ok (hstatus _)
        · refine ⟨setting, .pending, requests, rfl, ⟨nofun, fun h => absurd h hready⟩, hrows, ?_⟩
          have hstatus : ∀ t, (reviewStatus requestId (s.db.validCount req) setting.threshold).run
              t = (.ok .pending, t) := by
            intro t
            rw [reviewStatus, if_neg hready]
            rfl
          exact Prog.run_bind_of_ok (hstatus _)
      · exact .inl ⟨_, Prog.run_bind_of_error (Prog.run_ensure_of_neg hne _ s),
          .inr (not_ne_iff.mp hne)⟩

/-- No eligible attester is named twice in the request. -/
def Db.NoRepeatedAttester (db : Db) (req : RotateKeyRequest) : Prop :=
  ((req.attestations.filter (db.Eligible req.oldPubkey req.newPubkey)).map (·.attester)).Nodup

theorem attesters_attested_eq_nil (fresh : FreshIds s.db requestId freshId) :
    attesters requestId s.db.rotationAttestations = [] := by
  rw [attesters, List.map_eq_nil_iff, List.filter_eq_nil_iff]
  intro row hrow
  simpa using fresh.attestations row hrow

/-- Without repetitions there are as many rows as attestations that count. -/
theorem length_attested (fresh : FreshIds s.db requestId freshId)
    (hreq : s.db.NoRepeatedAttester req) :
    ((s.db.attested requestId freshId now req).rows.filter (·.requestId = requestId)).length =
      s.db.validCount req := by
  have hnone := attesters_attested_eq_nil fresh
  have hattesters : attesters requestId (s.db.attested requestId freshId now req) =
      (req.attestations.filter (s.db.Eligible req.oldPubkey req.newPubkey)).map (·.attester) := by
    unfold Db.attested
    rw [attesters_attestAll (fun row hrow k _ => fresh.ids row hrow k) fresh.injective]
    · rw [hnone, List.nil_append]
    · rw [hnone, List.nil_append]
      exact hreq
  have hlength := congrArg List.length hattesters
  rwa [attesters, List.length_map, List.length_map] at hlength

/-- Every open request is listed with the number of rows stored for it. -/
theorem attestationCount_of_mem_pendingRequests {db : Db} {entry : PendingRequestAdmin}
    (hentry : entry ∈ db.pendingRequests) :
    entry.attestationCount = (db.attestationsFor entry.id).length := by
  rw [Db.pendingRequests, List.mem_mergeSort, List.mem_map] at hentry
  obtain ⟨row, -, rfl⟩ := hentry
  rfl

/-- **Recovery threshold.** The rows stored for a request come from pairwise
distinct current contacts of the old key, none of them one of the two keys. If
no eligible attester is named twice, the request is put up for review only with
at least `threshold` rows, and the count answered to the requester and shown to
administrators is the number of rows. -/
theorem postRotateKey_attestations (s : AppState) (requestId : String) (freshId : ℕ → String)
    (now : Int) (req : RotateKeyRequest) (fresh : FreshIds s.db requestId freshId) :
    let result := ((postRotateKey requestId freshId now req).run s).1
    let db := ((postRotateKey requestId freshId now req).run s).2.db
    let stored := db.attestationsFor requestId
    (stored.map (·.attesterPubkey)).Nodup ∧
    (∀ row ∈ stored, db.recoveryContacts.has (req.oldPubkey, row.attesterPubkey) = true ∧
      row.attesterPubkey ≠ req.oldPubkey ∧ row.attesterPubkey ≠ req.newPubkey) ∧
    (s.db.NoRepeatedAttester req →
      (∀ row ∈ db.keyRotationRequests.rows, row.id = requestId → row.status = .readyForReview →
        ∃ setting, s.db.recoverySettings.find? req.oldPubkey = some setting ∧
          setting.threshold ≤ stored.length) ∧
      ∀ response, result = .ok (.created, response) →
        response.attestationCount = stored.length ∧
        ∀ entry ∈ db.pendingRequests, entry.id = requestId →
          entry.attestationCount = response.attestationCount) := by
  have hnone := attesters_attested_eq_nil fresh
  rcases run_postRotateKey fresh with ⟨e, hrun, -⟩ | ⟨setting, status, requests, hsetting, hstatus,
    hrows, hrun⟩
  · -- Refused: no row of the request exists, before or after.
    have hempty : s.db.attestationsFor requestId = [] := by
      rwa [attesters, List.map_eq_nil_iff] at hnone
    have hfree := Table.has_eq_false_iff.mp fresh.request
    rw [hrun]
    refine ⟨by simp [hempty], by simp [hempty], fun _ => ⟨?_, nofun⟩⟩
    intro row hrow hid
    exact absurd hid (hfree row hrow)
  · rw [hrun]
    have hcount : s.db.NoRepeatedAttester req →
        (((s.db.withRotations requests
          (s.db.attested requestId freshId now req)).attestationsFor requestId).length : Int) =
          s.db.validCount req :=
      fun hreq => congrArg Int.ofNat (length_attested fresh hreq)
    refine ⟨?_, ?_, fun hreq => ⟨?_, ?_⟩⟩
    · exact nodup_attesters_attestAll (by rw [hnone]; exact List.nodup_nil)
    · intro row hrow
      obtain ⟨hmem, hid⟩ := List.mem_filter.mp hrow
      rcases mem_attestAll hmem with hold | ⟨att, -, ⟨hold, hnew, hcontact⟩, -, hattester⟩
      · exact absurd (of_decide_eq_true hid) (fresh.attestations row hold)
      · rw [hattester]
        exact ⟨hcontact, hold, hnew⟩
    · intro row hrow hid hready
      have hnew : row = req.row requestId now status := by
        have hmem : row ∈ requests.rows := hrow
        rw [hrows, List.mem_append, List.mem_singleton] at hmem
        rcases hmem with hmem | hmem
        · exact absurd hid (Table.has_eq_false_iff.mp fresh.request row hmem)
        · exact hmem
      refine ⟨setting, hsetting, ?_⟩
      rw [withDb_db, hcount hreq]
      apply hstatus.mp
      rw [hnew] at hready
      exact hready
    · intro response hresponse
      cases hresponse
      refine ⟨(hcount hreq).symm, ?_⟩
      intro entry hentry hid
      rw [attestationCount_of_mem_pendingRequests hentry, hid]
      exact hcount hreq

/-- A hub on which the owner has one recovery contact and asks for one
attestation. -/
def recoveryHub : AppState where
  db := {
    recoverySettings := ⟨[⟨"owner", 1, 1⟩], by decide⟩
    recoveryContacts := ⟨[⟨"owner", "contact", 1⟩], by decide⟩ }

/-- The identifiers drawn for `recoveryHub`. -/
def recoveryId (n : ℕ) : String :=
  String.ofList (List.replicate n 'a')

theorem recoveryHub_fresh : FreshIds recoveryHub.db "request" recoveryId where
  request := by decide
  attestations := nofun
  ids := nofun
  injective := by
    intro first second heq
    have hlength := congrArg (·.toList.length) heq
    simpa [recoveryId] using hlength

/-- An attestation whose signature is not even hexadecimal text puts the
request up for review, whatever signature scheme is in use. -/
theorem postRotateKey_unsigned_attestation :
    ¬ ∃ E : Ed25519, ∀ (s : AppState) (requestId : String) (freshId : ℕ → String) (now : Int)
      (req : RotateKeyRequest), FreshIds s.db requestId freshId →
      let db := ((postRotateKey requestId freshId now req).run s).2.db
      let stored := db.attestationsFor requestId
      ∀ row ∈ db.keyRotationRequests.rows, row.id = requestId → row.status = .readyForReview →
        (∃ setting, s.db.recoverySettings.find? req.oldPubkey = some setting ∧
          setting.threshold ≤ stored.length) ∧
        (stored.map (·.attesterPubkey)).Nodup ∧
        ∀ attestation ∈ stored,
          s.db.recoveryContacts.has (req.oldPubkey, attestation.attesterPubkey) = true ∧
          attestation.attesterPubkey ≠ req.oldPubkey ∧
          attestation.attesterPubkey ≠ req.newPubkey ∧
          ∃ message, checkSig E attestation.attesterPubkey message attestation.signature =
            .ok () := by
  rintro ⟨E, h⟩
  have hrow := h recoveryHub "request" recoveryId 2
    ⟨"owner", "new", none, [⟨"contact", "stub_sig"⟩]⟩ recoveryHub_fresh
    ⟨"request", "owner", "new", none, .readyForReview, 2, none, none⟩ (by decide) rfl rfl
  obtain ⟨message, hmessage⟩ := (hrow.2.2 ⟨"", "request", "contact", "stub_sig", 2⟩
    (by decide)).2.2.2
  have hhex : hexDecode "stub_sig" = none := by decide
  rw [checkSig, hhex] at hmessage
  cases hmessage

/-- A hub on which the owner has two recovery contacts and asks for both. -/
def pairedContactsHub : AppState where
  db := {
    recoverySettings := ⟨[⟨"owner", 2, 1⟩], by decide⟩
    recoveryContacts := ⟨[⟨"owner", "first", 1⟩, ⟨"owner", "second", 1⟩], by decide⟩ }

theorem pairedContactsHub_fresh : FreshIds pairedContactsHub.db "request" recoveryId where
  request := by decide
  attestations := nofun
  ids := nofun
  injective := recoveryHub_fresh.injective

/-- Both contacts attest, and so does a stranger; the request is put up for review, and two rows
are stored. -/
theorem postRotateKey_attestations_both :
    let req : RotateKeyRequest :=
      ⟨"owner", "new", none, [⟨"first", "c0ffee"⟩, ⟨"stranger", "c0ffee"⟩, ⟨"second", "c0ffee"⟩]⟩
    let outcome := (postRotateKey "request" recoveryId 2 req).run pairedContactsHub
    outcome.1 = .ok (.created, ⟨"request", "owner", "new", .readyForReview, 2, 2⟩) ∧
      (2 : Int) = (outcome.2.db.attestationsFor "request").length := by
  have hresult := postRotateKey_attestations pairedContactsHub "request" recoveryId 2
    ⟨"owner", "new", none, [⟨"first", "c0ffee"⟩, ⟨"stranger", "c0ffee"⟩, ⟨"second", "c0ffee"⟩]⟩
    pairedContactsHub_fresh
  have hnodup : pairedContactsHub.db.NoRepeatedAttester ⟨"owner", "new", none,
      [⟨"first", "c0ffee"⟩, ⟨"stranger", "c0ffee"⟩, ⟨"second", "c0ffee"⟩]⟩ := by
    unfold Db.NoRepeatedAttester
    decide
  exact ⟨rfl, ((hresult.2.2 hnodup).2 _ rfl).1⟩

end Request

end Voxply.Hub
