/-
# The identity store

Masters keep their signed records on their home hubs: a list of home hubs, the
certificates of their devices, revocations, and encrypted preferences.  Anybody
may hand in a record that verifies and anybody may read it back.  A record is
flattened into columns: its numbers are stored as signed integers and its lists
as JSON text.  What is read back is put together from the columns again.

The JSON library is a parameter.  It is relied on to read back what it has
written.
-/

import Voxply.Hub.AuthUser

namespace Voxply.Hub

open Voxply.Math Voxply.Identity

/-! ## Columns -/

/-- `as i64`. -/
def asI64 (x : UInt64) : Int :=
  x.toInt64.toInt

/-- `as u64`. -/
def asU64 (x : Int) : UInt64 :=
  (Int64.ofInt x).toUInt64

/-- The two casts keep every value. -/
@[simp]
theorem asU64_asI64 (x : UInt64) : asU64 (asI64 x) = x := by
  rw [asU64, asI64, Int64.ofInt_toInt, UInt64.toUInt64_toInt64]

/-- The JSON texts that the handlers store. Writers and readers report a failure
by its text. -/
structure IdentityJson where
  writeStrings : List String → Except String String
  readStrings : String → Except String (List String)
  writeCert : SubkeyCert → Except String String
  readCert : String → Except String SubkeyCert

/-- What has been written is read back. -/
structure IdentityJson.RoundTrips (json : IdentityJson) : Prop where
  strings : ∀ list text, json.writeStrings list = .ok text → json.readStrings text = .ok list
  cert : ∀ cert text, json.writeCert cert = .ok text → json.readCert text = .ok cert

/-- The text recorded for a value. -/
def recordedText {A : Type} [DecidableEq A] (recorded : List (A × String)) (a : A) :
    Except String String :=
  (recorded.find? (·.1 = a)).elim (.error "not recorded") fun entry => .ok entry.2

/-- The value that a text was recorded for. -/
def recordedValue {A : Type} (recorded : List (A × String)) (text : String) : Except String A :=
  (recorded.find? (·.2 = text)).elim (.error "not recorded") fun entry => .ok entry.1

theorem recordedValue_recordedText {A : Type} [DecidableEq A] {recorded : List (A × String)}
    (hdistinct : (recorded.map Prod.snd).Nodup) {a : A} {text : String}
    (h : recordedText recorded a = .ok text) : recordedValue recorded text = .ok a := by
  unfold recordedText at h
  cases hfind : recorded.find? (·.1 = a) with
  | none => simp [hfind] at h
  | some entry =>
      have hmem := List.mem_of_find?_eq_some hfind
      have hkey : entry.1 = a := by simpa using List.find?_some hfind
      have htext : entry.2 = text := by simpa [hfind] using h
      have hback : recorded.find? (·.2 = text) = some entry := by
        cases hback : recorded.find? (·.2 = text) with
        | none => simpa [htext] using List.find?_eq_none.mp hback entry hmem
        | some other =>
            have hother : other.2 = text := by simpa using List.find?_some hback
            rw [List.inj_on_of_nodup_map hdistinct (List.mem_of_find?_eq_some hback) hmem
              (hother.trans htext.symm)]
      rw [recordedValue, hback, Option.elim_some, hkey]

/-- The library as far as recorded texts tell, for evaluating the model on
concrete input. -/
def IdentityJson.ofRecorded (strings : List (List String × String))
    (certs : List (SubkeyCert × String)) : IdentityJson where
  writeStrings := recordedText strings
  readStrings := recordedValue strings
  writeCert := recordedText certs
  readCert := recordedValue certs

theorem IdentityJson.roundTrips_ofRecorded {strings : List (List String × String)}
    {certs : List (SubkeyCert × String)} (hstrings : (strings.map Prod.snd).Nodup)
    (hcerts : (certs.map Prod.snd).Nodup) :
    (IdentityJson.ofRecorded strings certs).RoundTrips where
  strings _ _ h := recordedValue_recordedText hstrings h
  cert _ _ h := recordedValue_recordedText hcerts h

/-- `db_err`. -/
def dbErr (text : String) : ApiError :=
  ⟨.internalServerError, "DB error: " ++ text⟩

/-- The comparison with the stored number, made on the signed columns. -/
def requireExceeds (what : String) (current : Option Int) (new : Int) : Except ApiError Unit :=
  match current with
  | none => .ok ()
  | some stored =>
      if new ≤ stored then
        .error ⟨.conflict, what ++ " must exceed current (" ++ toString stored ++ ")"⟩
      else .ok ()

theorem requireExceeds_ok {what : String} {current : Option Int} {new : Int}
    (h : requireExceeds what current new = .ok ()) : ∀ stored, current = some stored →
    stored < new := by
  rintro stored rfl
  unfold requireExceeds at h
  dsimp only at h
  split_ifs at h with hle
  omega

/-! ## Home hubs -/

/-- The row that a list of home hubs is stored as. -/
def designationRow (now : Int) (hubsJson : String) (body : HomeHubList) : HomeHubDesignationRow :=
  ⟨body.masterPubkey, hubsJson, asI64 body.issuedAt, asI64 body.sequence, body.signature, now⟩

/-- `INSERT INTO home_hub_designations … ON CONFLICT(master_pubkey) DO UPDATE`. -/
def upsertDesignation (row : HomeHubDesignationRow) (db : Db) : Db :=
  { db with
    homeHubDesignations := db.homeHubDesignations.upsert row
      (fun old => { old with
        hubsJson := row.hubsJson, issuedAt := row.issuedAt, sequence := row.sequence,
        signature := row.signature, updatedAt := row.updatedAt }) fun _ => rfl }

/-- A list of home hubs from its columns. -/
def readDesignation (json : IdentityJson) (row : HomeHubDesignationRow) :
    Except ApiError HomeHubList := do
  let hubs ← (json.readStrings row.hubsJson).mapError fun e => dbErr ("hubs_json: " ++ e)
  pure ⟨row.masterPubkey, hubs, asU64 row.issuedAt, asU64 row.sequence, row.signature⟩

/-- `get_designation`. -/
def getDesignation (json : IdentityJson) (master : String) : Handler HomeHubList := do
  let row ← fetch (·.homeHubDesignations.find? master)
  .ofExcept (row.elim (.error ⟨.notFound, "No designation"⟩) (readDesignation json))

/-- `put_designation`. -/
def putDesignation (lib : Crates) (json : IdentityJson) (now : Int) (master : String)
    (body : HomeHubList) : Handler StatusCode := do
  .ensure (body.masterPubkey = master)
    ⟨.badRequest, "master_pubkey mismatch between URL and body"⟩
  .ofExcept ((body.verify lib.ed25519).mapError fun e => ⟨.badRequest, "Bad signature: " ++ e⟩)
  let current ← fetch fun db => (db.homeHubDesignations.find? master).map (·.sequence)
  .ofExcept (requireExceeds "sequence" current (asI64 body.sequence))
  let hubsJson ← .ofExcept ((json.writeStrings body.hubs).mapError fun e =>
    dbErr ("serialize hubs: " ++ e))
  write (upsertDesignation (designationRow now hubsJson body))
  pure .ok

/-! ## Devices -/

/-- The row that a certificate is stored as. -/
def subkeyCertRow (now : Int) (fallbackHubsJson : String) (cert : SubkeyCert) : SubkeyCertRow :=
  ⟨cert.masterPubkey, cert.subkeyPubkey, cert.deviceLabel, asI64 cert.issuedAt,
    cert.notAfter.map asI64, fallbackHubsJson, cert.signature, now⟩

/-- `INSERT INTO subkey_certs … ON CONFLICT(master_pubkey, subkey_pubkey) DO
UPDATE`. The time of registration stays. -/
def upsertSubkeyCert (row : SubkeyCertRow) (db : Db) : Db :=
  { db with
    subkeyCerts := db.subkeyCerts.upsert row
      (fun old => { old with
        deviceLabel := row.deviceLabel, issuedAt := row.issuedAt, notAfter := row.notAfter,
        fallbackHubsJson := row.fallbackHubsJson, signature := row.signature }) fun _ => rfl }

/-- A certificate from its columns. -/
def readSubkeyCert (json : IdentityJson) (row : SubkeyCertRow) : Except ApiError SubkeyCert := do
  let fallbackHubs ← (json.readStrings row.fallbackHubsJson).mapError fun e =>
    dbErr ("fallback_hubs_json: " ++ e)
  pure ⟨row.masterPubkey, row.subkeyPubkey, row.deviceLabel, asU64 row.issuedAt,
    row.notAfter.map asU64, fallbackHubs, row.signature⟩

/-- `list_devices`. -/
def listDevices (json : IdentityJson) (master : String) : Handler (List SubkeyCert) := do
  let rows ← fetch fun db =>
    (db.subkeyCerts.rows.filter (·.masterPubkey = master)).mergeSort fun first second =>
      first.issuedAt ≤ second.issuedAt
  .ofExcept (rows.mapM (readSubkeyCert json))

/-- `post_device`. -/
def postDevice (lib : Crates) (json : IdentityJson) (now : Int) (master : String)
    (cert : SubkeyCert) : Handler StatusCode := do
  .ensure (cert.masterPubkey = master)
    ⟨.badRequest, "master_pubkey mismatch between URL and body"⟩
  .ofExcept ((cert.verify lib.ed25519).mapError fun e => ⟨.badRequest, "Bad signature: " ++ e⟩)
  let fallbackJson ← .ofExcept ((json.writeStrings cert.fallbackHubs).mapError fun e =>
    dbErr ("serialize fallback_hubs: " ++ e))
  write (upsertSubkeyCert (subkeyCertRow now fallbackJson cert))
  pure .ok

/-! ## Revocations -/

/-- A revocation from its columns. -/
def readRevocation (row : SubkeyRevocationRow) : RevocationEntry :=
  ⟨row.masterPubkey, row.subkeyPubkey, asU64 row.revokedAt, row.signature⟩

/-- `list_revocations`. -/
def listRevocations (master : String) : Handler (List RevocationEntry) := do
  let rows ← fetch fun db =>
    (db.subkeyRevocations.rows.filter (·.masterPubkey = master)).mergeSort fun first second =>
      first.revokedAt ≤ second.revokedAt
  pure (rows.map readRevocation)

/-! ## Preferences -/

/-- The row that a blob is stored as. -/
def prefsBlobRow (now : Int) (blob : SignedPrefsBlob) : PrefsBlobRow :=
  ⟨blob.masterPubkey, asI64 blob.blobVersion, blob.ciphertextHex, blob.signature, now⟩

/-- `INSERT INTO prefs_blobs … ON CONFLICT(master_pubkey) DO UPDATE`. -/
def upsertPrefsBlob (row : PrefsBlobRow) (db : Db) : Db :=
  { db with
    prefsBlobs := db.prefsBlobs.upsert row
      (fun old => { old with
        blobVersion := row.blobVersion, ciphertextHex := row.ciphertextHex,
        signature := row.signature, updatedAt := row.updatedAt }) fun _ => rfl }

/-- A blob from its columns. -/
def readPrefsBlob (row : PrefsBlobRow) : SignedPrefsBlob :=
  ⟨row.masterPubkey, asU64 row.blobVersion, row.ciphertextHex, row.signature⟩

/-- `get_prefs`. -/
def getPrefs (master : String) : Handler SignedPrefsBlob := do
  let row ← fetch (·.prefsBlobs.find? master)
  .ofExcept (row.elim (.error ⟨.notFound, "No prefs blob"⟩) fun row => .ok (readPrefsBlob row))

/-- `put_prefs`. -/
def putPrefs (lib : Crates) (now : Int) (master : String) (blob : SignedPrefsBlob) :
    Handler StatusCode := do
  .ensure (blob.masterPubkey = master)
    ⟨.badRequest, "master_pubkey mismatch between URL and body"⟩
  .ofExcept ((blob.verify lib.ed25519 lib.sha256).mapError fun e =>
    ⟨.badRequest, "Bad signature: " ++ e⟩)
  let current ← fetch fun db => (db.prefsBlobs.find? master).map (·.blobVersion)
  .ofExcept (requireExceeds "blob_version" current (asI64 blob.blobVersion))
  write (upsertPrefsBlob (prefsBlobRow now blob))
  pure .ok

/-! ## What is stored is read back -/

section RoundTrip

variable {json : IdentityJson} {now : Int} {text : String}

theorem readDesignation_designationRow (hjson : json.RoundTrips) {body : HomeHubList}
    (htext : json.writeStrings body.hubs = .ok text) :
    readDesignation json (designationRow now text body) = .ok body := by
  unfold readDesignation designationRow
  rw [hjson.strings _ _ htext]
  simp [Except.mapError, bind, Except.bind, pure, Except.pure]

/-- Whenever the row was registered. -/
theorem readSubkeyCert_subkeyCertRow (hjson : json.RoundTrips) {cert : SubkeyCert}
    (htext : json.writeStrings cert.fallbackHubs = .ok text) :
    readSubkeyCert json (subkeyCertRow now text cert) = .ok cert := by
  unfold readSubkeyCert subkeyCertRow
  rw [hjson.strings _ _ htext]
  simp [Except.mapError, bind, Except.bind, pure, Except.pure, Function.comp_def]

theorem readRevocation_revocationRow (entry : RevocationEntry) :
    readRevocation (revocationRow now entry) = entry := by
  have hrevokedAt : asU64 (asI64 entry.revokedAt) = entry.revokedAt := asU64_asI64 _
  rw [readRevocation, revocationRow]
  exact congrArg (RevocationEntry.mk _ _ · _) hrevokedAt

theorem readPrefsBlob_prefsBlobRow (blob : SignedPrefsBlob) :
    readPrefsBlob (prefsBlobRow now blob) = blob := by
  rw [readPrefsBlob, prefsBlobRow, asU64_asI64]

end RoundTrip

end Voxply.Hub
