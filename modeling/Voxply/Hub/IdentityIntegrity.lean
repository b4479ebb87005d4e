/-
# The identity store serves what it has accepted

Whatever requests run side by side, a record that is read back for a master was
handed in, field by field, by a request that was accepted before it was read,
names that master, and verifies.  Records are followed through their columns:
a record is stored if some row reads back as it, and the statement that first
makes it stored belongs to a request that carries it.
-/

import Voxply.Hub.CanonicalIdentity
import Voxply.Hub.IdentityRequests

namespace Voxply.Hub

open Voxply.Math Voxply.Identity

/-- A record of the store. -/
inductive SignedRecord where
  | designation (body : HomeHubList)
  | device (cert : SubkeyCert)
  | revocation (entry : RevocationEntry)
  | prefs (blob : SignedPrefsBlob)
  deriving DecidableEq

def SignedRecord.masterPubkey : SignedRecord → String
  | .designation body => body.masterPubkey
  | .device cert => cert.masterPubkey
  | .revocation entry => entry.masterPubkey
  | .prefs blob => blob.masterPubkey

def SignedRecord.verify (lib : Crates) : SignedRecord → Except String Unit
  | .designation body => body.verify lib.ed25519
  | .device cert => cert.verify lib.ed25519
  | .revocation entry => entry.verify lib.ed25519
  | .prefs blob => blob.verify lib.ed25519 lib.sha256

/-- The records that an answer serves. -/
def IdentityAnswer.records : IdentityAnswer → List SignedRecord
  | .designation body => [.designation body]
  | .devices certs => certs.map .device
  | .revocations entries => entries.map .revocation
  | .prefs blob => [.prefs blob]
  | .status _ => []
  | .pairing _ => []

/-- The master whose records a request asks for. -/
def IdentityRequest.asksFor : IdentityRequest → Option String
  | .getDesignation master => some master
  | .listDevices master => some master
  | .listRevocations master => some master
  | .getPrefs master => some master
  | _ => none

/-- The record that a request hands in. -/
def IdentityRequest.record? : IdentityRequest → Option SignedRecord
  | .putDesignation _ _ body => some (.designation body)
  | .postDevice _ _ cert => some (.device cert)
  | .postRevocation _ _ entry => some (.revocation entry)
  | .putPrefs _ _ blob => some (.prefs blob)
  | .postComplete _ complete => some (.device complete.cert)
  | _ => none

/-! ## Stored records -/

section Stored

variable {lib : Crates} {json : IdentityJson} {record : SignedRecord} {db : Db}

/-- Some row reads back as the record. -/
def Stored (json : IdentityJson) (db : Db) : SignedRecord → Prop
  | .designation body => ∃ row ∈ db.homeHubDesignations.rows, readDesignation json row = .ok body
  | .device cert => ∃ row ∈ db.subkeyCerts.rows, readSubkeyCert json row = .ok cert
  | .revocation entry => ∃ row ∈ db.subkeyRevocations.rows, readRevocation row = entry
  | .prefs blob => ∃ row ∈ db.prefsBlobs.rows, readPrefsBlob row = blob

/-- Only the four tables matter. -/
theorem stored_congr {db' : Db} (hdesignations : db'.homeHubDesignations = db.homeHubDesignations)
    (hcerts : db'.subkeyCerts = db.subkeyCerts)
    (hrevocations : db'.subkeyRevocations = db.subkeyRevocations)
    (hprefs : db'.prefsBlobs = db.prefsBlobs) : Stored json db' record ↔ Stored json db record := by
  cases record with
  | designation body => rw [Stored, Stored, hdesignations]
  | device cert => rw [Stored, Stored, hcerts]
  | revocation entry => rw [Stored, Stored, hrevocations]
  | prefs blob => rw [Stored, Stored, hprefs]

theorem RecordsKept.stored_iff {past : List (Sent AppState)} {sent : Sent AppState}
    (h : RecordsKept past) (hsent : sent ∈ past) :
    Stored json sent.after.db record ↔ Stored json sent.before.db record := by
  obtain ⟨hdesignations, hcerts, hrevocations, hprefs⟩ := h sent hsent
  exact stored_congr hdesignations hcerts hrevocations hprefs

/-- The row that was there is rewritten in every column but its key. -/
theorem mem_upsertDesignation {row other : HomeHubDesignationRow}
    (h : other ∈ (upsertDesignation row db).homeHubDesignations.rows) :
    other ∈ db.homeHubDesignations.rows ∨ other = row := by
  rcases Table.mem_upsert h with hold | hnew | ⟨old, -, hkey, hrewritten⟩
  · exact .inl hold
  · exact .inr hnew
  · right
    rw [hrewritten, hkey]

/-- The row that was there keeps its time of registration. -/
theorem mem_upsertSubkeyCert {row other : SubkeyCertRow}
    (h : other ∈ (upsertSubkeyCert row db).subkeyCerts.rows) :
    other ∈ db.subkeyCerts.rows ∨ ∃ registeredAt, other = { row with registeredAt } := by
  rcases Table.mem_upsert h with hold | hnew | ⟨old, -, hkey, hrewritten⟩
  · exact .inl hold
  · exact .inr ⟨row.registeredAt, hnew⟩
  · right
    have hmaster : old.masterPubkey = row.masterPubkey := congrArg Prod.fst hkey
    have hsubkey : old.subkeyPubkey = row.subkeyPubkey := congrArg Prod.snd hkey
    exact ⟨old.registeredAt, by rw [hrewritten, hmaster, hsubkey]⟩

theorem mem_upsertPrefsBlob {row other : PrefsBlobRow}
    (h : other ∈ (upsertPrefsBlob row db).prefsBlobs.rows) :
    other ∈ db.prefsBlobs.rows ∨ other = row := by
  rcases Table.mem_upsert h with hold | hnew | ⟨old, -, hkey, hrewritten⟩
  · exact .inl hold
  · exact .inr hnew
  · right
    rw [hrewritten, hkey]

/-- Storing a list of home hubs stores nothing else. -/
theorem stored_upsertDesignation (hjson : json.RoundTrips) {now : Int} {text : String}
    {body : HomeHubList} (htext : json.writeStrings body.hubs = .ok text)
    (h : Stored json (upsertDesignation (designationRow now text body) db) record) :
    Stored json db record ∨ record = .designation body := by
  cases record with
  | designation other =>
      obtain ⟨row, hrow, hread⟩ := h
      rcases mem_upsertDesignation hrow with hrow | rfl
      · exact .inl ⟨row, hrow, hread⟩
      · rw [readDesignation_designationRow hjson htext] at hread
        cases hread
        exact .inr rfl
  | device cert => exact .inl h
  | revocation entry => exact .inl h
  | prefs blob => exact .inl h

theorem stored_upsertSubkeyCert (hjson : json.RoundTrips) {now : Int} {text : String}
    {cert : SubkeyCert} (htext : json.writeStrings cert.fallbackHubs = .ok text)
    (h : Stored json (upsertSubkeyCert (subkeyCertRow now text cert) db) record) :
    Stored json db record ∨ record = .device cert := by
  cases record with
  | device other =>
      obtain ⟨row, hrow, hread⟩ := h
      rcases mem_upsertSubkeyCert hrow with hrow | ⟨registeredAt, rfl⟩
      · exact .inl ⟨row, hrow, hread⟩
      · have hcert : readSubkeyCert json (subkeyCertRow registeredAt text cert) = .ok cert :=
          readSubkeyCert_subkeyCertRow hjson htext
        cases hcert.symm.trans hread
        exact .inr rfl
  | designation body => exact .inl h
  | revocation entry => exact .inl h
  | prefs blob => exact .inl h

theorem stored_insertRevocation {now : Int} {entry : RevocationEntry}
    (h : Stored json (insertRevocation (revocationRow now entry) db) record) :
    Stored json db record ∨ record = .revocation entry := by
  cases record with
  | revocation other =>
      obtain ⟨row, hrow, hread⟩ := h
      rcases Table.mem_insertOrIgnore.mp hrow with hrow | ⟨-, rfl⟩
      · exact .inl ⟨row, hrow, hread⟩
      · rw [readRevocation_revocationRow] at hread
        exact .inr (congrArg _ hread.symm)
  | designation body => exact .inl h
  | device cert => exact .inl h
  | prefs blob => exact .inl h

theorem stored_upsertPrefsBlob {now : Int} {blob : SignedPrefsBlob}
    (h : Stored json (upsertPrefsBlob (prefsBlobRow now blob) db) record) :
    Stored json db record ∨ record = .prefs blob := by
  cases record with
  | prefs other =>
      obtain ⟨row, hrow, hread⟩ := h
      rcases mem_upsertPrefsBlob hrow with hrow | rfl
      · exact .inl ⟨row, hrow, hread⟩
      · rw [readPrefsBlob_prefsBlobRow] at hread
        exact .inr (congrArg _ hread.symm)
  | designation body => exact .inl h
  | device cert => exact .inl h
  | revocation entry => exact .inl h

/-- A statement stores the record of its request, which verifies, and no other. -/
theorem IdentitySent.stored (hjson : json.RoundTrips) {request : IdentityRequest}
    {past : List (Sent AppState)} {sent : Sent AppState}
    (h : IdentitySent lib json request past sent) (hafter : Stored json sent.after.db record) :
    Stored json sent.before.db record ∨
      (request.record? = some record ∧ record.verify lib = .ok ()) := by
  by_cases hkeeps : request.KeepsRecords
  · exact .inl (((h.recordsKept hkeeps).stored_iff (List.mem_singleton_self sent)).mp hafter)
  cases h with
  | read h =>
      exact .inl (((recordsKept_read h).stored_iff (List.mem_singleton_self sent)).mp hafter)
  | prune now h =>
      exact .inl (((recordsKept_prune h).stored_iff (List.mem_singleton_self sent)).mp hafter)
  | write h =>
      rw [Sent.after] at hafter
      cases request with
      | putDesignation now master body =>
          obtain ⟨text, htext, hstatement⟩ := h.statement
          rw [hstatement] at hafter
          apply (stored_upsertDesignation hjson htext hafter).imp_right
          rintro rfl
          exact ⟨rfl, h.verified⟩
      | postDevice now master cert =>
          obtain ⟨text, htext, hstatement⟩ := h.statement
          rw [hstatement] at hafter
          apply (stored_upsertSubkeyCert hjson htext hafter).imp_right
          rintro rfl
          exact ⟨rfl, h.verified⟩
      | postRevocation now master entry =>
          rw [h.statement] at hafter
          apply (stored_insertRevocation hafter).imp_right
          rintro rfl
          exact ⟨rfl, h.verified⟩
      | putPrefs now master blob =>
          rw [h.statement] at hafter
          apply (stored_upsertPrefsBlob hafter).imp_right
          rintro rfl
          exact ⟨rfl, h.verified⟩
      | postComplete clock complete =>
          obtain ⟨certJson, text, -, htext, hstatement⟩ := h.statement
          rw [hstatement] at hafter
          have hcert : Stored json (upsertSubkeyCert
              (subkeyCertRow clock.created text complete.cert) sent.before.db) record :=
            (stored_congr rfl rfl rfl rfl).mp hafter
          apply (stored_upsertSubkeyCert hjson htext hcert).imp_right
          rintro rfl
          exact ⟨rfl, h.verified⟩
      | getDesignation | listDevices | listRevocations | getPrefs | postOffer | postClaim
      | getStatus => exact absurd trivial hkeeps

end Stored

/-! ## Every schedule of requests -/

section Schedules

variable {lib : Crates} {json : IdentityJson} {record : SignedRecord} {s : AppState}
  {moves : List (Move IdentityRequest)}

/-- A request that hands in a record is answered OK or with an error. -/
theorem IdentityRequest.Done.status_ok {request : IdentityRequest} {answer : IdentityAnswer}
    {past : List (Sent AppState)} (h : request.Done lib json answer past)
    (hrecord : request.record? = some record) : answer = .status .ok := by
  cases request with
  | putDesignation | postDevice | postRevocation | putPrefs | postComplete => exact h.1
  | getDesignation | listDevices | listRevocations | getPrefs | postOffer | postClaim | getStatus =>
      cases hrecord

/-- What is stored was handed in by a request that was accepted. -/
theorem accepted_of_stored (hjson : json.RoundTrips) (hempty : ¬ Stored json s.db record)
    {pre post : List IdentityEvent} {reading : IdentityEvent}
    (hsplit : (identityRun lib json moves s).history = pre ++ reading :: post)
    (hstored : Stored json reading.before.db record) :
    record.verify lib = .ok () ∧ ∃ first e last, pre = first ++ e :: last ∧
      e.request.record? = some record ∧
      (identityRun lib json moves s).answer? e.job = some (.ok (.status .ok)) := by
  have hsound := sound_identityRun lib json moves s
  have hpre := (hsound.run.split hsplit).1
  obtain ⟨first, e, last, rfl, hbefore, hafter⟩ :=
    hpre.established (fun t => Stored json t.db record) hempty hstored
  have hgood := (hpre.split rfl).2.1
  obtain ⟨hrecord, hverified⟩ := (hgood.stored hjson hafter).resolve_left hbefore
  refine ⟨hverified, first, e, last, rfl, hrecord, ?_⟩
  have hmem : e ∈ (identityRun lib json moves s).history := by
    rw [hsplit]
    simp
  have hrequest := hsound.request?_eq hmem
  have huntil := Server.always_serve (fun request => request.handler_follows)
    (fun request => request.handler_until) moves s hrequest
  by_cases hanswer : ∃ answer, (identityRun lib json moves s).answer? e.job = some (.ok answer)
  · obtain ⟨answer, hanswer⟩ := hanswer
    have hdone := hsound.returned hrequest hanswer
    rw [hanswer, hdone.status_ok hrecord]
  · have hkept : RecordsKept (sentBy e.job (identityRun lib json moves s).history) :=
      huntil fun answer heq => hanswer ⟨answer, heq⟩
    exact absurd ((hkept.stored_iff (mem_sentBy.mpr ⟨e, hmem, rfl, rfl⟩)).mp hafter) hbefore

theorem masterPubkey_readDesignation {row : HomeHubDesignationRow} {body : HomeHubList}
    (h : readDesignation json row = .ok body) : body.masterPubkey = row.masterPubkey := by
  unfold readDesignation at h
  cases hhubs : json.readStrings row.hubsJson with
  | error e => simp [hhubs, Except.mapError, bind, Except.bind] at h
  | ok hubs =>
      simp only [hhubs, Except.mapError, bind, Except.bind, pure, Except.pure, Except.ok.injEq] at h
      rw [← h]

theorem masterPubkey_readSubkeyCert {row : SubkeyCertRow} {cert : SubkeyCert}
    (h : readSubkeyCert json row = .ok cert) : cert.masterPubkey = row.masterPubkey := by
  unfold readSubkeyCert at h
  cases hhubs : json.readStrings row.fallbackHubsJson with
  | error e => simp [hhubs, Except.mapError, bind, Except.bind] at h
  | ok hubs =>
      simp only [hhubs, Except.mapError, bind, Except.bind, pure, Except.pure, Except.ok.injEq] at h
      rw [← h]

/-- What a reading request has served was stored, under the master it asked for,
when it read. -/
theorem IdentityRequest.Done.served {request : IdentityRequest} {answer : IdentityAnswer}
    {past : List (Sent AppState)} {master : String} (h : request.Done lib json answer past)
    (hasks : request.asksFor = some master) (hrecord : record ∈ answer.records) :
    ∃ t, past = [⟨id, t⟩] ∧ Stored json t.db record ∧ record.masterPubkey = master := by
  cases request with
  | getDesignation asked =>
      cases hasks
      obtain ⟨t, row, body, hpast, hfind, hread, rfl⟩ := h
      obtain ⟨hrow, hkey⟩ := Table.find?_eq_some_iff.mp hfind
      rw [List.mem_singleton.mp hrecord]
      exact ⟨t, hpast, ⟨row, hrow, hread⟩, (masterPubkey_readDesignation hread).trans hkey⟩
  | listDevices asked =>
      cases hasks
      obtain ⟨t, certs, hpast, hcerts, rfl⟩ := h
      obtain ⟨cert, hcert, rfl⟩ := List.mem_map.mp hrecord
      obtain ⟨row, hrow, hkey, hread⟩ := hcerts cert hcert
      exact ⟨t, hpast, ⟨row, hrow, hread⟩, (masterPubkey_readSubkeyCert hread).trans hkey⟩
  | listRevocations asked =>
      cases hasks
      obtain ⟨t, entries, hpast, hentries, rfl⟩ := h
      obtain ⟨entry, hentry, rfl⟩ := List.mem_map.mp hrecord
      obtain ⟨row, hrow, hkey, rfl⟩ := hentries entry hentry
      exact ⟨t, hpast, ⟨row, hrow, rfl⟩, hkey⟩
  | getPrefs asked =>
      cases hasks
      obtain ⟨t, row, hpast, hfind, rfl⟩ := h
      obtain ⟨hrow, hkey⟩ := Table.find?_eq_some_iff.mp hfind
      rw [List.mem_singleton.mp hrecord]
      exact ⟨t, hpast, ⟨row, hrow, rfl⟩, hkey⟩
  | putDesignation | postDevice | postRevocation | putPrefs | postOffer | postClaim | postComplete
  | getStatus => cases hasks

/-- The store serves what it has accepted. -/
theorem served_records_accepted (hjson : json.RoundTrips)
    (hempty : ∀ record, ¬ Stored json s.db record) {job : ℕ} {request : IdentityRequest}
    {master : String} {answer : IdentityAnswer}
    (hrequest : (identityRun lib json moves s).request? job = some request)
    (hasks : request.asksFor = some master)
    (hanswer : (identityRun lib json moves s).answer? job = some (.ok answer))
    (hrecord : record ∈ answer.records) :
    record.masterPubkey = master ∧ record.verify lib = .ok () ∧
      ∃ first e last reading post,
        (identityRun lib json moves s).history = (first ++ e :: last) ++ reading :: post ∧
        e.request.record? = some record ∧
        (identityRun lib json moves s).answer? e.job = some (.ok (.status .ok)) ∧
        reading.job = job := by
  have hsound := sound_identityRun lib json moves s
  have hdone := hsound.returned hrequest hanswer
  obtain ⟨t, hpast, hstored, hmaster⟩ := hdone.served hasks hrecord
  obtain ⟨pre, reading, post, hsplit, hjob, hsent, -⟩ :=
    exists_first_event (by rw [hpast]; rfl)
  have hbefore : reading.before = t := congrArg Sent.before hsent
  rw [← hbefore] at hstored
  obtain ⟨hverified, first, e, last, rfl, hcarried, haccepted⟩ :=
    accepted_of_stored hjson (hempty record) hsplit hstored
  exact ⟨hmaster, hverified, first, e, last, reading, post, hsplit, hcarried, haccepted, hjob⟩

end Schedules

/-! ## A listing -/

def phoneCertJson : String :=
  "\x7b\"master_pubkey\":\"" ++ ownerKey ++ "\",\"subkey_pubkey\":\"" ++ phoneKey ++
    "\",\"device_label\":\"phone\",\"issued_at\":2,\"not_after\":null,\"fallback_hubs\":[]," ++
    "\"signature\":\"" ++ phoneCert.signature ++ "\"\x7d"

def deviceJson : IdentityJson :=
  .ofRecorded [([], "[]")] [(phoneCert, phoneCertJson)]

theorem deviceJson_roundTrips : deviceJson.RoundTrips :=
  IdentityJson.roundTrips_ofRecorded (List.nodup_singleton _) (List.nodup_singleton _)

/-- The phone is registered between two listings. -/
def phoneListed : List (Move IdentityRequest) :=
  [.start (.listDevices ownerKey), .start (.postDevice 5 ownerKey phoneCert),
    .start (.listDevices ownerKey), .exec 0, .exec 1, .exec 2]

theorem served_records_accepted_phoneListed :
    (SignedRecord.device phoneCert).masterPubkey = ownerKey ∧
      (SignedRecord.device phoneCert).verify deviceLib = .ok () ∧
      ∃ first e last reading post,
        (identityRun deviceLib deviceJson phoneListed { db := .migrated }).history =
          (first ++ e :: last) ++ reading :: post ∧
        e.request.record? = some (.device phoneCert) ∧
        (identityRun deviceLib deviceJson phoneListed { db := .migrated }).answer? e.job =
          some (.ok (.status .ok)) ∧
        reading.job = 2 := by
  have hempty : ∀ record, ¬ Stored deviceJson Db.migrated record := by
    rintro (_ | _ | _ | _) ⟨row, hrow, -⟩ <;> cases hrow
  obtain ⟨hrequest, hanswer⟩ :
      (identityRun deviceLib deviceJson phoneListed { db := .migrated }).request? 2 =
          some (.listDevices ownerKey) ∧
        (identityRun deviceLib deviceJson phoneListed { db := .migrated }).answer? 2 =
          some (.ok (.devices [phoneCert])) := by
    decide +kernel
  exact served_records_accepted deviceJson_roundTrips hempty hrequest rfl hanswer
    (List.mem_singleton_self _)

end Voxply.Hub
