/-
# Rollback protection

The list of home hubs and the preferences of a master are kept in one version,
which carries a number that its master has signed.  A put compares its number
with the stored one and then overwrites what is there.  The comparison is made
on signed columns, in a statement of its own.  The stored number goes up with
every accepted put as long as the comparison still holds when the put writes,
and no number of the upper half of the range, which the columns hold as a
negative one, is followed by one of the lower half.
-/

import Voxply.Hub.IdentityIntegrity

namespace Voxply.Hub

open Voxply.Math Voxply.Identity

/-! ## Signed columns -/

theorem asI64_eq (x : UInt64) :
    asI64 x = if x.toNat < 2 ^ 63 then (x.toNat : Int) else x.toNat - 2 ^ 64 := by
  have h : asI64 x = x.toBitVec.toInt := rfl
  rw [h, BitVec.toInt_eq_toNat_cond]
  simp only [UInt64.toNat_toBitVec]
  split_ifs <;> omega

/-- The signed order is the unsigned one, unless the sign comes off. -/
theorem lt_of_asI64_lt {m n : UInt64} (hlt : asI64 m < asI64 n)
    (hsign : asI64 m < 0 → asI64 n < 0) : m < n := by
  rw [UInt64.lt_iff_toNat_lt]
  have hm := m.toNat_lt
  have hn := n.toNat_lt
  rw [asI64_eq, asI64_eq] at *
  split_ifs at * <;> omega

/-! ## Versions -/

/-- The records that are kept in one version. -/
inductive Versioned where
  | designation
  | prefs
  deriving DecidableEq

namespace Versioned

/-- The column that holds the number of the stored version. -/
def column (kind : Versioned) (db : Db) (master : String) : Option Int :=
  match kind with
  | .designation => (db.homeHubDesignations.find? master).map (·.sequence)
  | .prefs => (db.prefsBlobs.find? master).map (·.blobVersion)

/-- The number of the stored version, as it is served. -/
def stored (kind : Versioned) (db : Db) (master : String) : Option UInt64 :=
  (kind.column db master).map asU64

/-- The master and the number of a put. -/
def put? (kind : Versioned) (request : IdentityRequest) : Option (String × UInt64) :=
  match kind, request with
  | .designation, .putDesignation _ master body => some (master, body.sequence)
  | .prefs, .putPrefs _ master blob => some (master, blob.blobVersion)
  | _, _ => none

/-- The stored version stays, in every column. -/
def Kept (kind : Versioned) (db db' : Db) (master : String) : Prop :=
  match kind with
  | .designation => db'.homeHubDesignations.find? master = db.homeHubDesignations.find? master
  | .prefs => db'.prefsBlobs.find? master = db.prefsBlobs.find? master

/-- The comparison holds against the version that the put overwrites, and the
number does not lose its sign. -/
def Ordered (kind : Versioned) (e : IdentityEvent) : Prop :=
  ∀ put ∈ kind.put? e.request, ∀ current ∈ kind.column e.before.db put.1,
    current < asI64 put.2 ∧ (current < 0 → asI64 put.2 < 0)

instance (kind : Versioned) (e : IdentityEvent) : Decidable (kind.Ordered e) :=
  inferInstanceAs (Decidable (∀ put ∈ kind.put? e.request,
    ∀ current ∈ kind.column e.before.db put.1,
      current < asI64 put.2 ∧ (current < 0 → asI64 put.2 < 0)))

/-- The columns hold casts of unsigned numbers. -/
def Columns (kind : Versioned) (db : Db) : Prop :=
  ∀ master current, kind.column db master = some current → ∃ n, current = asI64 n

/-- What the numbers are for. -/
structure RollbackProtected (kind : Versioned)
    (server : Server IdentityRequest AppState ApiError IdentityAnswer) : Prop where
  /-- An accepted put has raised the stored number to its own, and the stored
  number has not fallen below it since. -/
  accepted : ∀ job request master n, server.request? job = some request →
    kind.put? request = some (master, n) →
    server.answer? job = some (.ok (.status .ok)) →
    (∃ pre e post, server.history = pre ++ e :: post ∧ e.job = job ∧
      (∀ m, kind.stored e.before.db master = some m → m < n) ∧
      kind.stored e.after.db master = some n) ∧
    ∃ m, kind.stored server.state.db master = some m ∧ n ≤ m
  /-- A version is only ever replaced by one with a larger number. -/
  replaced : ∀ e ∈ server.history, ∀ master m, kind.stored e.before.db master = some m →
    kind.Kept e.before.db e.after.db master ∨
      ∃ m', kind.stored e.after.db master = some m' ∧ m < m'

variable {kind : Versioned} {lib : Crates} {json : IdentityJson}

theorem Kept.column_eq {db db' : Db} {master : String} (h : kind.Kept db db' master) :
    kind.column db' master = kind.column db master := by
  cases kind with
  | designation => exact congrArg (Option.map _) h
  | prefs => exact congrArg (Option.map _) h

theorem Kept.stored_eq {db db' : Db} {master : String} (h : kind.Kept db db' master) :
    kind.stored db' master = kind.stored db master :=
  congrArg (Option.map asU64) h.column_eq

theorem Columns.stored {db : Db} (h : kind.Columns db) {master : String} {m : UInt64}
    (hm : kind.stored db master = some m) : kind.column db master = some (asI64 m) := by
  obtain ⟨current, hcurrent, rfl⟩ := Option.map_eq_some_iff.mp hm
  obtain ⟨n, rfl⟩ := h master current hcurrent
  rw [asU64_asI64, hcurrent]

/-! ## Writes -/

end Versioned

/-- The row that was there is rewritten in every column but its key. -/
theorem find?_upsertDesignation (row : HomeHubDesignationRow) (db : Db) (master : String) :
    (upsertDesignation row db).homeHubDesignations.find? master =
      if master = row.masterPubkey then some row else db.homeHubDesignations.find? master := by
  rw [upsertDesignation, Table.find?_upsert]
  split_ifs with hkey
  · cases hfind : db.homeHubDesignations.find? master with
    | none => rfl
    | some old =>
        rw [Option.map_some, Option.getD_some, (Table.find?_eq_some_iff.mp hfind).2, hkey]
  · rfl

theorem find?_upsertPrefsBlob (row : PrefsBlobRow) (db : Db) (master : String) :
    (upsertPrefsBlob row db).prefsBlobs.find? master =
      if master = row.masterPubkey then some row else db.prefsBlobs.find? master := by
  rw [upsertPrefsBlob, Table.find?_upsert]
  split_ifs with hkey
  · cases hfind : db.prefsBlobs.find? master with
    | none => rfl
    | some old =>
        rw [Option.map_some, Option.getD_some, (Table.find?_eq_some_iff.mp hfind).2, hkey]
  · rfl

namespace Versioned

variable {kind : Versioned} {lib : Crates} {json : IdentityJson} {request : IdentityRequest}
  {past : List (Sent AppState)} {sent : Sent AppState}

/-- The second statement of a put stores its number. -/
theorem column_of_writes {master : String} {n : UInt64}
    (hput : kind.put? request = some (master, n)) (h : request.Writes lib json past sent) :
    past.length = 1 ∧ kind.column sent.after.db master = some (asI64 n) ∧
      ∀ other, other ≠ master → kind.Kept sent.before.db sent.after.db other := by
  rw [Sent.after]
  cases kind with
  | designation =>
      cases request with
      | putDesignation now asked body =>
          cases hput
          obtain ⟨s, rfl, -⟩ := h.read
          obtain ⟨text, -, hstatement⟩ := h.statement
          have hkey : (designationRow now text body).masterPubkey = master := h.master_eq
          rw [hstatement]
          refine ⟨rfl, ?_, fun other hother => ?_⟩
          · change Option.map _ ((upsertDesignation _ _).homeHubDesignations.find? _) = _
            rw [find?_upsertDesignation, if_pos hkey.symm]
            rfl
          · exact (find?_upsertDesignation ..).trans (if_neg (hkey.symm ▸ hother))
      | _ => cases hput
  | prefs =>
      cases request with
      | putPrefs now asked blob =>
          cases hput
          obtain ⟨s, rfl, -⟩ := h.read
          have hkey : (prefsBlobRow now blob).masterPubkey = master := h.master_eq
          rw [h.statement]
          refine ⟨rfl, ?_, fun other hother => ?_⟩
          · change Option.map _ ((upsertPrefsBlob _ _).prefsBlobs.find? _) = _
            rw [find?_upsertPrefsBlob, if_pos hkey.symm]
            rfl
          · exact (find?_upsertPrefsBlob ..).trans (if_neg (hkey.symm ▸ hother))
      | _ => cases hput

theorem kept_of_tables {db db' : Db}
    (hdesignations : db'.homeHubDesignations = db.homeHubDesignations)
    (hprefs : db'.prefsBlobs = db.prefsBlobs) (master : String) : kind.Kept db db' master := by
  cases kind with
  | designation => exact congrArg (·.find? master) hdesignations
  | prefs => exact congrArg (·.find? master) hprefs

theorem kept_of_recordsKept (h : RecordsKept [sent]) (master : String) :
    kind.Kept sent.before.db sent.after.db master := by
  obtain ⟨hdesignations, -, -, hprefs⟩ := h sent (List.mem_singleton_self sent)
  exact kept_of_tables hdesignations hprefs master

/-- Nothing else touches a version. -/
theorem kept_or_writes (kind : Versioned) (h : IdentitySent lib json request past sent) :
    (∀ master, kind.Kept sent.before.db sent.after.db master) ∨
      (∃ master n, kind.put? request = some (master, n)) ∧ request.Writes lib json past sent := by
  by_cases hkeeps : request.KeepsRecords
  · exact .inl (kept_of_recordsKept (h.recordsKept hkeeps))
  cases h with
  | read h => exact .inl (kept_of_recordsKept (recordsKept_read h))
  | prune now h => exact .inl (kept_of_recordsKept (recordsKept_prune h))
  | write h =>
      cases request with
      | putDesignation now master body =>
          cases kind with
          | designation => exact .inr ⟨⟨master, body.sequence, rfl⟩, h⟩
          | prefs =>
              left
              obtain ⟨text, -, hstatement⟩ := h.statement
              rw [Sent.after, hstatement]
              exact fun _ => rfl
      | putPrefs now master blob =>
          cases kind with
          | prefs => exact .inr ⟨⟨master, blob.blobVersion, rfl⟩, h⟩
          | designation =>
              left
              rw [Sent.after, h.statement]
              exact fun _ => rfl
      | postDevice now master cert =>
          left
          obtain ⟨text, -, hstatement⟩ := h.statement
          rw [Sent.after, hstatement]
          exact kept_of_tables rfl rfl
      | postRevocation now master entry =>
          left
          rw [Sent.after, h.statement]
          exact kept_of_tables rfl rfl
      | postComplete clock complete =>
          left
          obtain ⟨certJson, fallbackJson, -, -, hstatement⟩ := h.statement
          rw [Sent.after, hstatement]
          exact kept_of_tables rfl rfl
      | _ => exact absurd trivial hkeeps

/-- A statement leaves a version alone or, as the second one of a put, replaces
the version of its master. -/
theorem kept_or_put (kind : Versioned) (h : IdentitySent lib json request past sent)
    (master : String) :
    kind.Kept sent.before.db sent.after.db master ∨
      ∃ n, kind.put? request = some (master, n) ∧ past.length = 1 ∧
        kind.column sent.after.db master = some (asI64 n) := by
  rcases kind.kept_or_writes h with hkept | ⟨⟨own, n, hput⟩, hwrites⟩
  · exact .inl (hkept master)
  · obtain ⟨hlength, hcolumn, hothers⟩ := column_of_writes hput hwrites
    by_cases hown : master = own
    · subst hown
      exact .inr ⟨n, hput, hlength, hcolumn⟩
    · exact .inl (hothers master hown)

/-! ## Every schedule -/

variable {s t : AppState} {history : List IdentityEvent}

theorem columns_of_interleaving (h : Interleaving (IdentitySent lib json) s history t)
    (hcolumns : kind.Columns s.db) : kind.Columns t.db := by
  induction h with
  | idle => exact hcolumns
  | @exec history t e hrun hbefore hown hgood ih =>
      subst hbefore
      intro master current hcurrent
      rcases kind.kept_or_put hgood master with hkept | ⟨n, -, -, hcolumn⟩
      · rw [hkept.column_eq] at hcurrent
        exact ih master current hcurrent
      · rw [hcolumn] at hcurrent
        exact ⟨n, (Option.some.inj hcurrent).symm⟩

/-- The comparison in the unsigned order. -/
theorem Ordered.lt {e : IdentityEvent} {master : String} {m n : UInt64} (h : kind.Ordered e)
    (hcolumns : kind.Columns e.before.db) (hput : kind.put? e.request = some (master, n))
    (hm : kind.stored e.before.db master = some m) : m < n := by
  obtain ⟨hlt, hsign⟩ := h (master, n) hput (asI64 m) (hcolumns.stored hm)
  exact lt_of_asI64_lt hlt hsign

/-- The condition on the puts of a run. -/
def OrderedPuts (kind : Versioned) (history : List IdentityEvent) : Prop :=
  ∀ pre e post, history = pre ++ e :: post → (sentBy e.job pre).length = 1 → kind.Ordered e

theorem replaced_of_orderedPuts (h : Interleaving (IdentitySent lib json) s history t)
    (hcolumns : kind.Columns s.db) (hordered : kind.OrderedPuts history) {e : IdentityEvent}
    (he : e ∈ history) {master : String} {m : UInt64}
    (hm : kind.stored e.before.db master = some m) : kind.Kept e.before.db e.after.db master ∨
      ∃ m', kind.stored e.after.db master = some m' ∧ m < m' := by
  obtain ⟨pre, post, hsplit⟩ := List.append_of_mem he
  obtain ⟨hpre, hgood, -⟩ := h.split hsplit
  rcases kind.kept_or_put hgood master with hkept | ⟨n, hput, hlength, hcolumn⟩
  · exact .inl hkept
  · refine .inr ⟨n, ?_, ?_⟩
    · change (kind.column e.toSent.after.db master).map asU64 = some n
      rw [hcolumn, Option.map_some, asU64_asI64]
    · exact (hordered pre e post hsplit hlength).lt (columns_of_interleaving hpre hcolumns) hput hm

/-- Stored numbers, read as unsigned ones, only go up if every put is ordered
when it writes. -/
theorem rollback_protected (kind : Versioned) (lib : Crates) (json : IdentityJson)
    (moves : List (Move IdentityRequest)) (s : AppState) (hcolumns : kind.Columns s.db)
    (hordered : kind.OrderedPuts (identityRun lib json moves s).history) :
    kind.RollbackProtected (identityRun lib json moves s) := by
  have hsound := sound_identityRun lib json moves s
  constructor
  · intro job request master n hrequest hput hanswer
    obtain ⟨pre, e, post, hsplit, rfl, rfl, hwrites⟩ := exists_write hrequest hanswer
    have hmem : e ∈ (identityRun lib json moves s).history := by
      rw [hsplit]
      simp
    obtain ⟨hlength, hcolumn, -⟩ := column_of_writes hput hwrites
    have hafter : kind.stored e.after.db master = some n := by
      change (kind.column e.toSent.after.db master).map asU64 = some n
      rw [hcolumn, Option.map_some, asU64_asI64]
    refine ⟨⟨pre, e, post, hsplit, rfl, ?_, hafter⟩, ?_⟩
    · intro m hm
      refine (hordered pre e post hsplit hlength).lt ?_ hput hm
      exact columns_of_interleaving (hsound.run.split hsplit).1 hcolumns
    · refine hsound.run.kept (fun t => ∃ m, kind.stored t.db master = some m ∧ n ≤ m) ?_ hmem
        ⟨n, hafter, UInt64.le_refl n⟩
      rintro later hlater ⟨m, hm, hle⟩
      rcases replaced_of_orderedPuts hsound.run hcolumns hordered hlater hm with
        hkept | ⟨m', hm', hlt⟩
      · exact ⟨m, hkept.stored_eq.trans hm, hle⟩
      · exact ⟨m', hm', UInt64.le_trans hle (UInt64.le_of_lt hlt)⟩
  · intro e he master m hm
    exact replaced_of_orderedPuts hsound.run hcolumns hordered he hm

end Versioned

/-! ## Lists with increasing and decreasing numbers -/

def firstList : HomeHubList :=
  ⟨ownerKey, [], 1, 1,
    "f17f12c94a8eaeeeca8176b6cb81f4d18157f6ff23ade57ebb9337ff76cd6dbb" ++
    "d57f635279c11e5ee82bfccc5ed3492eb9394b6a3ac0f245b5d66c6582aef201"⟩

def secondList : HomeHubList :=
  ⟨ownerKey, [], 2, 2,
    "e686d0337f7e74ac0e5afcb430a66c67401f9587935019e3a8e9edd96bb2c273" ++
    "e4d35bd44f15402035ce69569580ebbda8c85399c354e312b32a02e975f75d06"⟩

/-- The smallest number that the column holds as a negative one. -/
def upperList : HomeHubList :=
  ⟨ownerKey, [], 4, 9223372036854775808,
    "2ee93573178aa7dd0ac907921bc09b355afb58f6a7eb1951003fc8da6907f950" ++
    "939d58e4a2420d809436c96e59bafb091159f09921278551f9a1f7f6f0d1b107"⟩

def listLib : Crates := .ofRecorded ([firstList, secondList, upperList].map fun body =>
  ⟨.replicate 32 2, ownerKey, body.toSigningBytes, body.signature⟩)

/-- One put after the other. -/
def putsInTurn (first second : HomeHubList) : List (Move IdentityRequest) :=
  [.start (.putDesignation 10 ownerKey first), .exec 0, .exec 0,
    .start (.putDesignation 20 ownerKey second), .exec 1, .exec 1]

theorem rollback_protected_putsInTurn :
    Versioned.designation.RollbackProtected
      (identityRun listLib deviceJson (putsInTurn firstList secondList) { db := .migrated }) := by
  apply Versioned.rollback_protected
  · rintro master current ⟨⟩
  · exact forall_split_iff.mpr (by decide +kernel)

/-- Both puts compare before either writes; the larger number is written first. -/
def putsCrossing : List (Move IdentityRequest) :=
  [.start (.putDesignation 10 ownerKey firstList), .start (.putDesignation 10 ownerKey secondList),
    .exec 0, .exec 1, .exec 1, .exec 0]

/-- A number of the upper half is replaced by a smaller one, and so is a number
that was written after the comparison. -/
theorem puts_roll_back :
    ¬ Versioned.designation.RollbackProtected
        (identityRun listLib deviceJson (putsInTurn upperList firstList) { db := .migrated }) ∧
      ¬ Versioned.designation.RollbackProtected
        (identityRun listLib deviceJson putsCrossing { db := .migrated }) := by
  constructor
  · intro h
    obtain ⟨hrequest, hanswer, hfinal⟩ :
        (identityRun listLib deviceJson (putsInTurn upperList firstList)
            { db := .migrated }).request? 0 = some (.putDesignation 10 ownerKey upperList) ∧
          (identityRun listLib deviceJson (putsInTurn upperList firstList)
            { db := .migrated }).answer? 0 = some (.ok (.status .ok)) ∧
          Versioned.designation.stored (identityRun listLib deviceJson
            (putsInTurn upperList firstList) { db := .migrated }).state.db ownerKey = some 1 := by
      decide +kernel
    obtain ⟨-, m, hm, hle⟩ := h.accepted 0 _ ownerKey upperList.sequence hrequest rfl hanswer
    cases hm.symm.trans hfinal
    exact absurd hle (by decide)
  · intro h
    obtain ⟨hrequest, hanswer, hfinal⟩ :
        (identityRun listLib deviceJson putsCrossing { db := .migrated }).request? 1 =
            some (.putDesignation 10 ownerKey secondList) ∧
          (identityRun listLib deviceJson putsCrossing { db := .migrated }).answer? 1 =
            some (.ok (.status .ok)) ∧
          Versioned.designation.stored (identityRun listLib deviceJson putsCrossing
            { db := .migrated }).state.db ownerKey = some 1 := by
      decide +kernel
    obtain ⟨-, m, hm, hle⟩ := h.accepted 1 _ ownerKey secondList.sequence hrequest rfl hanswer
    cases hm.symm.trans hfinal
    exact absurd hle (by decide)

end Voxply.Hub
