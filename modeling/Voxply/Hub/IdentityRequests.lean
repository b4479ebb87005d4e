/-
# Requests on the identity store

One type for the requests that read and write signed records and for those of
pairing, so that their interleavings can be spoken of.  For each request it is
said what it may send: every write is preceded by the checks that its handler
makes, on the states in which it makes them.
-/

import Voxply.Hub.Pairing

namespace Voxply.Hub

open Voxply.Math Voxply.Identity

inductive IdentityRequest where
  | putDesignation (now : Int) (master : String) (body : HomeHubList)
  | getDesignation (master : String)
  | postDevice (now : Int) (master : String) (cert : SubkeyCert)
  | listDevices (master : String)
  | postRevocation (now : Int) (master : String) (entry : RevocationEntry)
  | listRevocations (master : String)
  | putPrefs (now : Int) (master : String) (blob : SignedPrefsBlob)
  | getPrefs (master : String)
  | postOffer (clock : PairingClock) (offer : PairingOffer)
  | postClaim (clock : PairingClock) (claim : PairingClaim)
  | postComplete (clock : PairingClock) (complete : PairingComplete)
  | getStatus (now : Int) (token : String)
  deriving DecidableEq

inductive IdentityAnswer where
  | status (code : StatusCode)
  | designation (body : HomeHubList)
  | devices (certs : List SubkeyCert)
  | revocations (entries : List RevocationEntry)
  | prefs (blob : SignedPrefsBlob)
  | pairing (status : PairingStatus)
  deriving DecidableEq

def IdentityRequest.handler (lib : Crates) (json : IdentityJson) :
    IdentityRequest → Handler IdentityAnswer
  | .putDesignation now master body => do
      let code ← Hub.putDesignation lib json now master body
      pure (.status code)
  | .getDesignation master => do
      let body ← Hub.getDesignation json master
      pure (.designation body)
  | .postDevice now master cert => do
      let code ← Hub.postDevice lib json now master cert
      pure (.status code)
  | .listDevices master => do
      let certs ← Hub.listDevices json master
      pure (.devices certs)
  | .postRevocation now master entry => do
      let code ← Hub.postRevocation lib now master entry
      pure (.status code)
  | .listRevocations master => do
      let entries ← Hub.listRevocations master
      pure (.revocations entries)
  | .putPrefs now master blob => do
      let code ← Hub.putPrefs lib now master blob
      pure (.status code)
  | .getPrefs master => do
      let blob ← Hub.getPrefs master
      pure (.prefs blob)
  | .postOffer clock offer => do
      let code ← Hub.postOffer lib json clock offer
      pure (.status code)
  | .postClaim clock claim => do
      let code ← Hub.postClaim lib clock claim
      pure (.status code)
  | .postComplete clock complete => do
      let code ← Hub.postComplete lib json clock complete
      pure (.status code)
  | .getStatus now token => do
      let status ← Hub.getStatus json now token
      pure (.pairing status)

abbrev IdentityEvent := Event IdentityRequest AppState

/-- Follow a schedule of requests on the identity store. -/
abbrev identityRun (lib : Crates) (json : IdentityJson) (moves : List (Move IdentityRequest))
    (s : AppState) : Server IdentityRequest AppState ApiError IdentityAnswer :=
  serve (IdentityRequest.handler lib json) moves s

/-! ## Writes -/

section Writes

variable (lib : Crates) (json : IdentityJson)

/-- A list of home hubs is written after its number has been compared with the
stored one. -/
structure WritesDesignation (now : Int) (master : String) (body : HomeHubList)
    (past : List (Sent AppState)) (sent : Sent AppState) : Prop where
  master_eq : body.masterPubkey = master
  verified : body.verify lib.ed25519 = .ok ()
  read : ∃ s, past = [⟨id, s⟩] ∧ ∀ row, s.db.homeHubDesignations.find? master = some row →
    row.sequence < asI64 body.sequence
  statement : ∃ text, json.writeStrings body.hubs = .ok text ∧
    sent.statement = written (upsertDesignation (designationRow now text body))

structure WritesDevice (now : Int) (master : String) (cert : SubkeyCert)
    (past : List (Sent AppState)) (sent : Sent AppState) : Prop where
  master_eq : cert.masterPubkey = master
  verified : cert.verify lib.ed25519 = .ok ()
  read : past = []
  statement : ∃ text, json.writeStrings cert.fallbackHubs = .ok text ∧
    sent.statement = written (upsertSubkeyCert (subkeyCertRow now text cert))

structure WritesRevocation (now : Int) (master : String) (entry : RevocationEntry)
    (past : List (Sent AppState)) (sent : Sent AppState) : Prop where
  master_eq : entry.masterPubkey = master
  verified : entry.verify lib.ed25519 = .ok ()
  read : past = []
  statement : sent.statement = written (insertRevocation (revocationRow now entry))

structure WritesPrefs (now : Int) (master : String) (blob : SignedPrefsBlob)
    (past : List (Sent AppState)) (sent : Sent AppState) : Prop where
  master_eq : blob.masterPubkey = master
  verified : blob.verify lib.ed25519 lib.sha256 = .ok ()
  read : ∃ s, past = [⟨id, s⟩] ∧ ∀ row, s.db.prefsBlobs.find? master = some row →
    row.blobVersion < asI64 blob.blobVersion
  statement : sent.statement = written (upsertPrefsBlob (prefsBlobRow now blob))

/-- What `post_offer` checks before it writes. -/
structure AcceptsOffer (clock : PairingClock) (offer : PairingOffer) : Prop where
  verified : offer.verify lib.ed25519 = .ok ()
  ordered : offer.issuedAt < offer.expiresAt
  lifetime : offer.expiresAt.toNat - offer.issuedAt.toNat ≤ maxOfferLifetimeSecs
  unexpired : asU64 clock.check < offer.expiresAt
  token : 32 ≤ offer.pairingToken.utf8ByteSize

structure WritesOffer (clock : PairingClock) (offer : PairingOffer)
    (past : List (Sent AppState)) (sent : Sent AppState) : Prop where
  accepted : AcceptsOffer lib clock offer
  read : ∃ s, past = [⟨written (pruneExpired clock.prune), s⟩]
  statement : ∃ text, json.writeStrings offer.homeHubs = .ok text ∧
    sent.statement = written (insertOffer (pairingOfferRow clock text offer))

/-- A claim is written after the offer has been read as pending and not
expired. -/
structure WritesClaim (clock : PairingClock) (claim : PairingClaim)
    (past : List (Sent AppState)) (sent : Sent AppState) : Prop where
  verified : claim.verify lib.ed25519 = .ok ()
  read : ∃ s s' row, past = [⟨written (pruneExpired clock.prune), s⟩, ⟨id, s'⟩] ∧
    s'.db.pairingOffers.find? claim.pairingToken = some row ∧ ¬ row.expiresAt < clock.check ∧
    row.state = .pending
  statement : sent.statement = written (claimOffer clock.updated claim)

/-- A completion is written after the offer has been read as claimed for the
certified key and not expired. -/
structure WritesCompletion (clock : PairingClock) (complete : PairingComplete)
    (past : List (Sent AppState)) (sent : Sent AppState) : Prop where
  verified : complete.cert.verify lib.ed25519 = .ok ()
  read : ∃ s s' row, past = [⟨written (pruneExpired clock.prune), s⟩, ⟨id, s'⟩] ∧
    s'.db.pairingOffers.find? complete.pairingToken = some row ∧ ¬ row.expiresAt < clock.check ∧
    row.state = .claimed ∧ complete.cert.masterPubkey = row.masterPubkey ∧
    some complete.cert.subkeyPubkey = row.subkeyPubkey
  statement : ∃ certJson fallbackJson, json.writeCert complete.cert = .ok certJson ∧
    json.writeStrings complete.cert.fallbackHubs = .ok fallbackJson ∧
    sent.statement = written (completeOffer clock certJson fallbackJson complete)

/-- The last statement of a request that writes. -/
def IdentityRequest.Writes :
    IdentityRequest → List (Sent AppState) → Sent AppState → Prop
  | .putDesignation now master body => WritesDesignation lib json now master body
  | .postDevice now master cert => WritesDevice lib json now master cert
  | .postRevocation now master entry => WritesRevocation lib now master entry
  | .putPrefs now master blob => WritesPrefs lib now master blob
  | .postOffer clock offer => WritesOffer lib json clock offer
  | .postClaim clock claim => WritesClaim lib clock claim
  | .postComplete clock complete => WritesCompletion lib json clock complete
  | .getDesignation _ | .listDevices _ | .listRevocations _ | .getPrefs _ | .getStatus _ _ =>
      fun _ _ => False

/-- What a statement of a request may do. -/
inductive IdentitySent (request : IdentityRequest) (past : List (Sent AppState))
    (sent : Sent AppState) : Prop
  | read (h : sent.statement = id)
  | prune (now : Int) (h : sent.statement = written (pruneExpired now))
  | write (h : request.Writes lib json past sent)

/-- What has been sent and read when a request is answered. -/
def IdentityRequest.Done (request : IdentityRequest) (answer : IdentityAnswer)
    (past : List (Sent AppState)) : Prop :=
  match request with
  | .getDesignation master => ∃ s row body, past = [⟨id, s⟩] ∧
      s.db.homeHubDesignations.find? master = some row ∧ readDesignation json row = .ok body ∧
      answer = .designation body
  | .listDevices master => ∃ s certs, past = [⟨id, s⟩] ∧
      (∀ cert ∈ certs, ∃ row ∈ s.db.subkeyCerts.rows, row.masterPubkey = master ∧
        readSubkeyCert json row = .ok cert) ∧ answer = .devices certs
  | .listRevocations master => ∃ s entries, past = [⟨id, s⟩] ∧
      (∀ entry ∈ entries, ∃ row ∈ s.db.subkeyRevocations.rows, row.masterPubkey = master ∧
        readRevocation row = entry) ∧ answer = .revocations entries
  | .getPrefs master => ∃ s row, past = [⟨id, s⟩] ∧
      s.db.prefsBlobs.find? master = some row ∧ answer = .prefs (readPrefsBlob row)
  | .getStatus now token => ∃ s row status, past = [⟨id, s⟩] ∧
      s.db.pairingOffers.find? token = some row ∧ readStatus json now row = .ok status ∧
      answer = .pairing status
  | _ => answer = .status .ok ∧ ∃ earlier sent, past = earlier ++ [sent] ∧
      request.Writes lib json earlier sent

end Writes

/-! ## The handlers send what is said of them -/

section Follows

variable {lib : Crates} {json : IdentityJson} {past : List (Sent AppState)}

/-- A request that writes is answered after its last statement. -/
def IdentityRequest.Written (lib : Crates) (json : IdentityJson) (request : IdentityRequest)
    (code : StatusCode) (past : List (Sent AppState)) : Prop :=
  code = .ok ∧ ∃ earlier sent, past = earlier ++ [sent] ∧ request.Writes lib json earlier sent

/-- The last statement of a request that writes. -/
theorem lastWrite_follows {request : IdentityRequest} {f : Db → Db}
    (h : ∀ s, request.Writes lib json past ⟨written f, s⟩) :
    (write f >>= fun _ => pure .ok : Handler StatusCode).Follows (IdentitySent lib json request)
      (request.Written lib json) past := by
  apply follows_write_bind
  · exact fun s => .write (h s)
  · exact fun s => ⟨rfl, past, _, rfl, h s⟩

theorem putDesignation_follows (now : Int) (master : String) (body : HomeHubList) :
    (putDesignation lib json now master body).Follows
      (IdentitySent lib json (.putDesignation now master body))
      (IdentityRequest.Written lib json (.putDesignation now master body)) [] := by
  apply Prog.follows_ensure_bind
  intro hmaster
  apply Prog.follows_ofExcept_bind
  intro _ hverified
  apply follows_fetch_bind fun s => .read rfl
  intro s
  apply Prog.follows_ofExcept_bind
  intro _ hexceeds
  apply Prog.follows_ofExcept_bind
  intro text htext
  apply lastWrite_follows
  intro s'
  refine ⟨hmaster, mapError_eq_ok_iff.mp hverified, ⟨s, rfl, fun row hrow => ?_⟩, text,
    mapError_eq_ok_iff.mp htext, rfl⟩
  exact requireExceeds_ok hexceeds row.sequence (by rw [hrow]; rfl)

theorem postDevice_follows (now : Int) (master : String) (cert : SubkeyCert) :
    (postDevice lib json now master cert).Follows
      (IdentitySent lib json (.postDevice now master cert))
      (IdentityRequest.Written lib json (.postDevice now master cert)) [] := by
  apply Prog.follows_ensure_bind
  intro hmaster
  apply Prog.follows_ofExcept_bind
  intro _ hverified
  apply Prog.follows_ofExcept_bind
  intro text htext
  apply lastWrite_follows
  exact fun s => ⟨hmaster, mapError_eq_ok_iff.mp hverified, rfl, text,
    mapError_eq_ok_iff.mp htext, rfl⟩

theorem postRevocation_follows (now : Int) (master : String) (entry : RevocationEntry) :
    (postRevocation lib now master entry).Follows
      (IdentitySent lib json (.postRevocation now master entry))
      (IdentityRequest.Written lib json (.postRevocation now master entry)) [] := by
  apply Prog.follows_ensure_bind
  intro hmaster
  apply Prog.follows_ofExcept_bind
  intro _ hverified
  apply lastWrite_follows
  exact fun s => ⟨hmaster, mapError_eq_ok_iff.mp hverified, rfl, rfl⟩

theorem putPrefs_follows (now : Int) (master : String) (blob : SignedPrefsBlob) :
    (putPrefs lib now master blob).Follows (IdentitySent lib json (.putPrefs now master blob))
      (IdentityRequest.Written lib json (.putPrefs now master blob)) [] := by
  apply Prog.follows_ensure_bind
  intro hmaster
  apply Prog.follows_ofExcept_bind
  intro _ hverified
  apply follows_fetch_bind fun s => .read rfl
  intro s
  apply Prog.follows_ofExcept_bind
  intro _ hexceeds
  apply lastWrite_follows
  intro s'
  refine ⟨hmaster, mapError_eq_ok_iff.mp hverified, ⟨s, rfl, fun row hrow => ?_⟩, rfl⟩
  exact requireExceeds_ok hexceeds row.blobVersion (by rw [hrow]; rfl)

theorem postOffer_follows (clock : PairingClock) (offer : PairingOffer) :
    (postOffer lib json clock offer).Follows (IdentitySent lib json (.postOffer clock offer))
      (IdentityRequest.Written lib json (.postOffer clock offer)) [] := by
  apply Prog.follows_ofExcept_bind
  intro _ hverified
  apply Prog.follows_ensure_bind
  intro hordered
  apply Prog.follows_ensure_bind
  intro hlifetime
  apply Prog.follows_ensure_bind
  intro hunexpired
  apply Prog.follows_ensure_bind
  intro htoken
  apply follows_write_bind fun s => .prune clock.prune rfl
  intro s
  apply Prog.follows_ofExcept_bind
  intro text htext
  apply lastWrite_follows
  intro s'
  exact ⟨⟨mapError_eq_ok_iff.mp hverified, hordered, hlifetime, hunexpired, htoken⟩, ⟨s, rfl⟩, text,
    mapError_eq_ok_iff.mp htext, rfl⟩

/-- One row is fetched and read, if it is there. -/
theorem fetchRow_reads {A B : Type} (f : Db → Option A) (e : ApiError)
    (g : A → Except ApiError B) :
    (do
      let row ← fetch f
      .ofExcept (row.elim (.error e) g) : Handler B).Follows (fun _ sent => sent.statement = id)
      (fun b past' => ∃ s row, past' = past ++ [⟨id, s⟩] ∧ f s.db = some row ∧ g row = .ok b)
      past := by
  apply follows_fetch_bind fun s => rfl
  intro s
  apply Prog.follows_ofExcept
  intro b hb
  cases hfind : f s.db with
  | none => simp [hfind] at hb
  | some row =>
      rw [hfind, Option.elim_some] at hb
      exact ⟨s, row, rfl, hfind, hb⟩

theorem fetchRow_follows {A B : Type} {request : IdentityRequest} (f : Db → Option A)
    (e : ApiError) (g : A → Except ApiError B) :
    (do
      let row ← fetch f
      .ofExcept (row.elim (.error e) g) : Handler B).Follows (IdentitySent lib json request)
      (fun b past' => ∃ s row, past' = past ++ [⟨id, s⟩] ∧ f s.db = some row ∧ g row = .ok b)
      past :=
  (fetchRow_reads f e g).mono (fun _ _ _ h => .read h) fun _ _ _ h => h

theorem postClaim_follows (clock : PairingClock) (claim : PairingClaim) :
    (postClaim lib clock claim).Follows (IdentitySent lib json (.postClaim clock claim))
      (IdentityRequest.Written lib json (.postClaim clock claim)) [] := by
  apply Prog.follows_ofExcept_bind
  intro _ hverified
  apply follows_write_bind fun s => .prune clock.prune rfl
  intro s
  apply (fetchRow_follows (·.pairingOffers.find? claim.pairingToken) _ _).bind
  rintro row past - ⟨s', _, rfl, hrow, ⟨⟩⟩
  apply Prog.follows_ensure_bind
  intro hunexpired
  apply Prog.follows_ensure_bind
  intro hpending
  apply lastWrite_follows
  intro s''
  exact ⟨mapError_eq_ok_iff.mp hverified, ⟨s, s', row, rfl, hrow, hunexpired, hpending⟩, rfl⟩

theorem postComplete_follows (clock : PairingClock) (complete : PairingComplete) :
    (postComplete lib json clock complete).Follows
      (IdentitySent lib json (.postComplete clock complete))
      (IdentityRequest.Written lib json (.postComplete clock complete)) [] := by
  apply Prog.follows_ofExcept_bind
  intro _ hverified
  apply follows_write_bind fun s => .prune clock.prune rfl
  intro s
  apply (fetchRow_follows (·.pairingOffers.find? complete.pairingToken) _ _).bind
  rintro row past - ⟨s', _, rfl, hrow, ⟨⟩⟩
  apply Prog.follows_ensure_bind
  intro hunexpired
  apply Prog.follows_ensure_bind
  intro hclaimed
  apply Prog.follows_ensure_bind
  intro hmaster
  apply Prog.follows_ensure_bind
  intro hsubkey
  apply Prog.follows_ofExcept_bind
  intro certJson hcertJson
  apply Prog.follows_ofExcept_bind
  intro fallbackJson hfallbackJson
  apply lastWrite_follows
  intro s''
  exact ⟨mapError_eq_ok_iff.mp hverified,
    ⟨s, s', row, rfl, hrow, hunexpired, hclaimed, hmaster, hsubkey⟩, certJson, fallbackJson,
    mapError_eq_ok_iff.mp hcertJson, mapError_eq_ok_iff.mp hfallbackJson, rfl⟩

theorem listDevices_follows (master : String) {request : IdentityRequest} :
    (listDevices json master).Follows (IdentitySent lib json request)
      (fun certs past => ∃ s, past = [⟨id, s⟩] ∧ ∀ cert ∈ certs, ∃ row ∈ s.db.subkeyCerts.rows,
        row.masterPubkey = master ∧ readSubkeyCert json row = .ok cert) [] := by
  apply follows_fetch_bind fun s => .read rfl
  intro s
  apply Prog.follows_ofExcept
  intro certs hcerts
  refine ⟨s, rfl, fun cert hcert => ?_⟩
  obtain ⟨row, hrow, hread⟩ := exists_of_mem_mapM hcerts cert hcert
  rw [List.mem_mergeSort, List.mem_filter] at hrow
  exact ⟨row, hrow.1, of_decide_eq_true hrow.2, hread⟩

theorem listRevocations_follows (master : String) {request : IdentityRequest} :
    (listRevocations master).Follows (IdentitySent lib json request)
      (fun entries past => ∃ s, past = [⟨id, s⟩] ∧ ∀ entry ∈ entries,
        ∃ row ∈ s.db.subkeyRevocations.rows, row.masterPubkey = master ∧
          readRevocation row = entry) [] := by
  apply follows_fetch_bind fun s => .read rfl
  intro s
  refine ⟨s, rfl, fun entry hentry => ?_⟩
  obtain ⟨row, hrow, hread⟩ := List.mem_map.mp hentry
  rw [List.mem_mergeSort, List.mem_filter] at hrow
  exact ⟨row, hrow.1, of_decide_eq_true hrow.2, hread⟩

theorem IdentityRequest.handler_follows (request : IdentityRequest) :
    (request.handler lib json).Follows (IdentitySent lib json request)
      (request.Done lib json) [] := by
  cases request with
  | putDesignation now master body =>
      apply (putDesignation_follows now master body).bind
      rintro _ past - ⟨rfl, hpast⟩
      exact ⟨rfl, hpast⟩
  | postDevice now master cert =>
      apply (postDevice_follows now master cert).bind
      rintro _ past - ⟨rfl, hpast⟩
      exact ⟨rfl, hpast⟩
  | postRevocation now master entry =>
      apply (postRevocation_follows now master entry).bind
      rintro _ past - ⟨rfl, hpast⟩
      exact ⟨rfl, hpast⟩
  | putPrefs now master blob =>
      apply (putPrefs_follows now master blob).bind
      rintro _ past - ⟨rfl, hpast⟩
      exact ⟨rfl, hpast⟩
  | postOffer clock offer =>
      apply (postOffer_follows clock offer).bind
      rintro _ past - ⟨rfl, hpast⟩
      exact ⟨rfl, hpast⟩
  | postClaim clock claim =>
      apply (postClaim_follows clock claim).bind
      rintro _ past - ⟨rfl, hpast⟩
      exact ⟨rfl, hpast⟩
  | postComplete clock complete =>
      apply (postComplete_follows clock complete).bind
      rintro _ past - ⟨rfl, hpast⟩
      exact ⟨rfl, hpast⟩
  | getDesignation master =>
      apply (fetchRow_follows (·.homeHubDesignations.find? master) _ (readDesignation json)).bind
      rintro body past - ⟨s, row, hpast, hfind, hread⟩
      exact ⟨s, row, body, hpast, hfind, hread, rfl⟩
  | listDevices master =>
      apply (listDevices_follows master).bind
      rintro certs past - ⟨s, hpast, hcerts⟩
      exact ⟨s, certs, hpast, hcerts, rfl⟩
  | listRevocations master =>
      apply (listRevocations_follows master).bind
      rintro entries past - ⟨s, hpast, hentries⟩
      exact ⟨s, entries, hpast, hentries, rfl⟩
  | getPrefs master =>
      apply (fetchRow_follows (·.prefsBlobs.find? master) _ _).bind
      rintro blob past - ⟨s, row, hpast, hfind, ⟨⟩⟩
      exact ⟨s, row, hpast, hfind, rfl⟩
  | getStatus now token =>
      apply (fetchRow_follows (·.pairingOffers.find? token) _ (readStatus json now)).bind
      rintro status past - ⟨s, row, hpast, hfind, hread⟩
      exact ⟨s, row, status, hpast, hfind, hread, rfl⟩

/-! ## Writing comes last -/

/-- None of the statements has changed a signed record. -/
def RecordsKept (past : List (Sent AppState)) : Prop :=
  ∀ sent ∈ past, sent.after.db.homeHubDesignations = sent.before.db.homeHubDesignations ∧
    sent.after.db.subkeyCerts = sent.before.db.subkeyCerts ∧
    sent.after.db.subkeyRevocations = sent.before.db.subkeyRevocations ∧
    sent.after.db.prefsBlobs = sent.before.db.prefsBlobs

theorem recordsKept_nil : RecordsKept [] :=
  fun _ h => nomatch h

theorem RecordsKept.snoc {sent : Sent AppState} (h : RecordsKept past)
    (hsent : RecordsKept [sent]) : RecordsKept (past ++ [sent]) := by
  intro other hother
  rcases List.mem_append.mp hother with hother | hother
  · exact h other hother
  · exact hsent other hother

/-- A statement that writes to other tables. -/
theorem recordsKept_singleton {sent : Sent AppState} {f : AppState → AppState}
    (hstatement : sent.statement = f)
    (h : ∀ s, (f s).db.homeHubDesignations = s.db.homeHubDesignations ∧
      (f s).db.subkeyCerts = s.db.subkeyCerts ∧
      (f s).db.subkeyRevocations = s.db.subkeyRevocations ∧
      (f s).db.prefsBlobs = s.db.prefsBlobs) : RecordsKept [sent] := by
  intro other hother
  rw [List.mem_singleton.mp hother, Sent.after, hstatement]
  exact h sent.before

theorem recordsKept_read {sent : Sent AppState} (h : sent.statement = id) : RecordsKept [sent] :=
  recordsKept_singleton h fun _ => ⟨rfl, rfl, rfl, rfl⟩

theorem recordsKept_prune {sent : Sent AppState} {now : Int}
    (h : sent.statement = written (pruneExpired now)) : RecordsKept [sent] :=
  recordsKept_singleton h fun _ => ⟨rfl, rfl, rfl, rfl⟩

/-- The requests that write none of the four tables. -/
def IdentityRequest.KeepsRecords : IdentityRequest → Prop
  | .putDesignation .. => False
  | .postDevice .. => False
  | .postRevocation .. => False
  | .putPrefs .. => False
  | .postComplete .. => False
  | _ => True

theorem IdentitySent.recordsKept {request : IdentityRequest} {sent : Sent AppState}
    (h : IdentitySent lib json request past sent) (hrequest : request.KeepsRecords) :
    RecordsKept [sent] := by
  cases h with
  | read h => exact recordsKept_read h
  | prune now h => exact recordsKept_prune h
  | write h =>
      cases request with
      | postOffer clock offer =>
          obtain ⟨text, -, hstatement⟩ := h.statement
          exact recordsKept_singleton hstatement fun _ => ⟨rfl, rfl, rfl, rfl⟩
      | postClaim clock claim =>
          exact recordsKept_singleton h.statement fun _ => ⟨rfl, rfl, rfl, rfl⟩
      | putDesignation | postDevice | postRevocation | putPrefs | postComplete =>
          exact hrequest.elim
      | getDesignation | listDevices | listRevocations | getPrefs | getStatus => exact h.elim

section Until

theorem until_ensure_bind {A : Type} {c : Prop} [Decidable c] {e : ApiError} {f : Unit → Handler A}
    (hpast : RecordsKept past) (hnext : c → (f ()).Until RecordsKept past) :
    (Prog.ensure c e >>= f).Until RecordsKept past :=
  Prog.always_ensure_bind (fun _ _ => hpast) hnext

theorem until_ofExcept_bind {A B : Type} {r : Except ApiError A} {f : A → Handler B}
    (hpast : RecordsKept past) (hnext : ∀ a, r = .ok a → (f a).Until RecordsKept past) :
    (Prog.ofExcept r >>= f).Until RecordsKept past :=
  Prog.always_ofExcept_bind (fun _ _ _ => hpast) hnext

theorem until_fetch_bind {A B : Type} {f : Db → A} {g : A → Handler B} (hpast : RecordsKept past)
    (hnext : ∀ a s, (g a).Until RecordsKept (past ++ [⟨id, s⟩])) :
    (fetch f >>= g).Until RecordsKept past :=
  always_fetch_bind (fun _ => hpast) fun s => hnext (f s.db) s

theorem until_lastWrite {f : Db → Db} (hpast : RecordsKept past) :
    (write f >>= fun _ => pure .ok : Handler StatusCode).Until RecordsKept past :=
  always_write_bind (fun _ => hpast) fun _ hnot => absurd rfl (hnot .ok)

theorem putDesignation_until (now : Int) (master : String) (body : HomeHubList) :
    (putDesignation lib json now master body).Until RecordsKept [] := by
  apply until_ensure_bind recordsKept_nil
  intro _
  apply until_ofExcept_bind recordsKept_nil
  intro _ _
  apply until_fetch_bind recordsKept_nil
  intro current s
  apply until_ofExcept_bind (recordsKept_read rfl)
  intro _ _
  apply until_ofExcept_bind (recordsKept_read rfl)
  intro text _
  exact until_lastWrite (recordsKept_read rfl)

theorem postDevice_until (now : Int) (master : String) (cert : SubkeyCert) :
    (postDevice lib json now master cert).Until RecordsKept [] := by
  apply until_ensure_bind recordsKept_nil
  intro _
  apply until_ofExcept_bind recordsKept_nil
  intro _ _
  apply until_ofExcept_bind recordsKept_nil
  intro text _
  exact until_lastWrite recordsKept_nil

theorem postRevocation_until (now : Int) (master : String) (entry : RevocationEntry) :
    (postRevocation lib now master entry).Until RecordsKept [] := by
  apply until_ensure_bind recordsKept_nil
  intro _
  apply until_ofExcept_bind recordsKept_nil
  intro _ _
  exact until_lastWrite recordsKept_nil

theorem putPrefs_until (now : Int) (master : String) (blob : SignedPrefsBlob) :
    (putPrefs lib now master blob).Until RecordsKept [] := by
  apply until_ensure_bind recordsKept_nil
  intro _
  apply until_ofExcept_bind recordsKept_nil
  intro _ _
  apply until_fetch_bind recordsKept_nil
  intro current s
  apply until_ofExcept_bind (recordsKept_read rfl)
  intro _ _
  exact until_lastWrite (recordsKept_read rfl)

theorem postComplete_until (clock : PairingClock) (complete : PairingComplete) :
    (postComplete lib json clock complete).Until RecordsKept [] := by
  apply until_ofExcept_bind recordsKept_nil
  intro _ _
  refine always_write_bind (fun _ => recordsKept_nil) fun s => ?_
  refine (fetchRow_reads (·.pairingOffers.find? complete.pairingToken) _ _).always_bind RecordsKept
    (fun _ _ hread hpast => hpast.snoc (recordsKept_read hread)) (recordsKept_prune rfl)
    (fun _ _ h _ => h) ?_
  intro row past hpast _
  apply until_ensure_bind hpast
  intro _
  apply until_ensure_bind hpast
  intro _
  apply until_ensure_bind hpast
  intro _
  apply until_ensure_bind hpast
  intro _
  apply until_ofExcept_bind hpast
  intro certJson _
  apply until_ofExcept_bind hpast
  intro fallbackJson _
  exact until_lastWrite hpast

/-- A request that has changed a record has been answered. -/
theorem IdentityRequest.handler_until (request : IdentityRequest) :
    (request.handler lib json).Until RecordsKept [] := by
  by_cases hkeeps : request.KeepsRecords
  · exact (request.handler_follows).always RecordsKept
      (fun _ _ hsent hpast => hpast.snoc (hsent.recordsKept hkeeps)) recordsKept_nil
      fun _ _ h _ => h
  · cases request with
    | putDesignation now master body => exact (putDesignation_until now master body).map _
    | postDevice now master cert => exact (postDevice_until now master cert).map _
    | postRevocation now master entry => exact (postRevocation_until now master entry).map _
    | putPrefs now master blob => exact (putPrefs_until now master blob).map _
    | postComplete clock complete => exact (postComplete_until clock complete).map _
    | getDesignation | listDevices | listRevocations | getPrefs | postOffer | postClaim
    | getStatus => exact absurd trivial hkeeps

end Until

end Follows

/-! ## Schedules -/

section Schedules

variable {lib : Crates} {json : IdentityJson} {request : IdentityRequest}
  {moves : List (Move IdentityRequest)} {s : AppState} {job : ℕ}

/-- Every schedule is an interleaving of such statements. -/
theorem sound_identityRun (lib : Crates) (json : IdentityJson)
    (moves : List (Move IdentityRequest)) (s : AppState) :
    (identityRun lib json moves s).Sound (IdentityRequest.handler lib json)
      (IdentitySent lib json) (IdentityRequest.Done lib json) s :=
  Server.sound_serve (fun request => request.handler_follows) moves s

/-- A request that is answered by a status has written. -/
theorem IdentityRequest.Done.writes {code : StatusCode} {past : List (Sent AppState)}
    (h : request.Done lib json (.status code) past) :
    ∃ earlier sent, past = earlier ++ [sent] ∧ request.Writes lib json earlier sent := by
  cases request with
  | putDesignation | postDevice | postRevocation | putPrefs | postOffer | postClaim
  | postComplete => exact h.2
  | getDesignation master =>
      obtain ⟨t, row, body, -, -, -, hanswer⟩ := h
      cases hanswer
  | listDevices master =>
      obtain ⟨t, certs, -, -, hanswer⟩ := h
      cases hanswer
  | listRevocations master =>
      obtain ⟨t, entries, -, -, hanswer⟩ := h
      cases hanswer
  | getPrefs master =>
      obtain ⟨t, row, -, -, hanswer⟩ := h
      cases hanswer
  | getStatus now token =>
      obtain ⟨t, row, status, -, -, -, hanswer⟩ := h
      cases hanswer

/-- The last statement of a request that has been answered by a status. -/
theorem exists_write {code : StatusCode}
    (hrequest : (identityRun lib json moves s).request? job = some request)
    (hanswer : (identityRun lib json moves s).answer? job = some (.ok (.status code))) :
    ∃ pre e post, (identityRun lib json moves s).history = pre ++ e :: post ∧ e.job = job ∧
      e.request = request ∧ request.Writes lib json (sentBy e.job pre) e.toSent := by
  have hsound := sound_identityRun lib json moves s
  obtain ⟨earlier, sent, hpast, hwrites⟩ := (hsound.returned hrequest hanswer).writes
  obtain ⟨pre, e, post, hsplit, rfl, rfl, rfl⟩ := exists_event (by rw [hpast])
  have hmem : e ∈ (identityRun lib json moves s).history := by
    rw [hsplit]
    simp
  have hown : e.request = request :=
    Option.some.inj ((hsound.request?_eq hmem).symm.trans hrequest)
  exact ⟨pre, e, post, hsplit, rfl, hown, hwrites⟩

end Schedules

end Voxply.Hub
