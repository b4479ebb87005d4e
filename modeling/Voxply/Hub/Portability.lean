/-
# Certifications elsewhere

A hub certifies its members, and a member shows the certification when logging in at
another hub that asks for one.  The hub that issues names the member by the key of the row
in `users`.  The hub that is shown the certification compares the name with the master of
the certificate that comes with the login, or with the key of the login if there is none.

A certification is good at every hub that asks for nothing but a certification, from the
moment it is issued until it expires, as long as the two names are the same and the numbers
fit the types they are stored in.
-/

import Voxply.Hub.LoginSignature

namespace Voxply.Hub

open Voxply.Math Voxply.Identity

/-! ## Issuance -/

/-- The `i64` that a sum or product ends up as. With overflow checks the program panics
instead where the two differ. -/
def wrapI64 (n : Int) : Int :=
  n.bmod (2 ^ 64)

/-- A sum or product of `i64`s, unless it overflows. -/
def checkedI64 (n : Int) : Option Int :=
  if -2 ^ 63 ≤ n ∧ n < 2 ^ 63 then some n else none

/-- `setting_i64`. -/
def Db.settingI64 (db : Db) (key : String) (default : Int) : Int :=
  ((db.setting key).bind (parseSigned (2 ^ 63))).getD default

def Db.validityDays (db : Db) : Int :=
  db.settingI64 "cert_validity_days" 90

/-- `now + validity_days * 86400`. -/
def certExpiry (now validityDays : Int) : Int :=
  wrapI64 (now + wrapI64 (validityDays * 86400))

/-- The same, unless one of the two operations overflows. -/
def certExpiry? (now validityDays : Int) : Option Int :=
  (checkedI64 (validityDays * 86400)).bind fun validity => checkedI64 (now + validity)

/-- `if pow_level > 0 { Some(pow_level as u8) } else { None }`. -/
def UserRow.certPowLevel (row : UserRow) : Option ℕ :=
  if 0 < row.powLevel then some (row.powLevel % 2 ^ 8).toNat else none

/-- What the hub certifies of a member. -/
def certPayloadFor (ourPubkey hubUrl : String) (now expiresAt : Int) (row : UserRow) :
    CertPayload where
  subjectKind := "user"
  issuerPubkey := ourPubkey
  issuerUrl := hubUrl
  subjectPubkey := row.publicKey
  memberSince := row.firstSeenAt
  standing := "good"
  powLevel := row.certPowLevel
  issuedAt := now
  expiresAt := expiresAt
  capabilities := []

/-- `INSERT INTO cert_issuances`. -/
def insertCertIssuance (row : CertIssuanceRow) (db : Db) : Except SqlError Db :=
  match db.certIssuances.insert? row with
  | none => .error (.primaryKey "cert_issuances.id")
  | some certIssuances => .ok { db with certIssuances := certIssuances }

/-- The row of an issued certification. -/
def CertPayload.issuance (payload : CertPayload) (id payloadJson signature : String) :
    CertIssuanceRow where
  id := id
  subjectPubkey := payload.subjectPubkey
  powLevel := payload.powLevel
  memberSince := payload.memberSince
  issuedAt := payload.issuedAt
  expiresAt := payload.expiresAt
  standing := "good"
  payloadJson := payloadJson
  signature := signature

/-- `serde_json::to_string(&payload)`. -/
def serialise (lib : Crates) (payload : CertPayload) : Except ApiError String :=
  match lib.certPayloadJson payload with
  | none => .error ⟨.internalServerError, "Serialise error: "⟩
  | some json => .ok json

/-- `issue_cert_for`, with the time and the fresh identifier of the ledger's row. -/
def issueCertFor (lib : Crates) (now : Int) (id subjectPubkey : String) :
    Handler Certification := do
  let row ← fetch (·.users.find? subjectPubkey)
  let row ← .ofExcept (row.elim (.error ⟨.notFound, "User not found"⟩) .ok)
  .ensure (row.approvalStatus = .approved) ⟨.forbidden, "User is not approved"⟩
  let banned ← isBanned subjectPubkey
  .ensure (¬ banned) ⟨.forbidden, "User is banned"⟩
  let validityDays ← fetch (·.validityDays)
  let ourPubkey ← .query (·.publicKeyHex lib.ed25519)
  let hubUrl ← fetch fun db => (db.setting "hub_url").getD ""
  let payload := certPayloadFor ourPubkey hubUrl now (certExpiry now validityDays) row
  let payloadJson ← .ofExcept (serialise lib payload)
  let signature ← .query fun s => hexEncode (lib.ed25519.sign s.hubIdentity (asBytes payloadJson))
  execute (insertCertIssuance (payload.issuance id payloadJson signature))
  pure ⟨payload, signature⟩

/-! ## What is to hold -/

/-- The level recorded for a member; zero says that there is none. -/
def UserRow.recordedLevel (row : UserRow) : Option Int :=
  if 0 < row.powLevel then some row.powLevel else none

/-- The hub asks for a certification of any issuer, or of issuers among which this one is,
and for nothing else. -/
def AppState.AsksCertOnly (hub : AppState) (lib : Crates) (issuerKey : String) : Prop :=
  (lib.readCertRequire ((hub.db.setting "cert_require").getD "\x7b\x7d")).getD {} = {} ∧
    ((hub.db.setting "cert_mode").getD "none" = "any" ∨
      (hub.db.setting "cert_mode").getD "none" = "trusted" ∧
        ∃ issuer ∈ (lib.readTrustedIssuers
          ((hub.db.setting "cert_trusted_issuers").getD "[]")).getD [], issuer.pubkey = issuerKey)

/-- The name that a hub expects in a certification shown with the credential. -/
def expectedSubject (publicKey : String) (cert : Option SubkeyCert) : String :=
  (cert.map (·.masterPubkey)).getD publicKey

/-- What is issued to the member at `now` passes the gate of every other hub until it
expires and not any longer, when it is shown with the credential; its level is the one that
is recorded, and nothing has overflowed. -/
structure Portable (lib : Crates) (s : AppState) (row : UserRow) (publicKey : String)
    (cert : Option SubkeyCert) (now : Int) (issued : Certification) : Prop where
  accepted : ∀ hub : AppState, hub.AsksCertOnly lib (s.publicKeyHex lib.ed25519) → ∀ env req,
    req.publicKey = publicKey → req.subkeyCert = cert → req.certifications = some [issued] →
      now ≤ env.certNow →
        (((certGate lib env req).run hub).1 = .ok () ↔ env.certNow ≤ issued.payload.expiresAt)
  powLevel : issued.payload.powLevel.map Int.ofNat = row.recordedLevel
  expiry : certExpiry? now s.db.validityDays = some issued.payload.expiresAt

/-- The validity fits, the level fits a byte, and the member's key is the name that is
expected, unless the certification expires before it is issued. -/
structure Transfers (s : AppState) (row : UserRow) (publicKey : String) (cert : Option SubkeyCert)
    (now : Int) : Prop where
  lower : -106751991167300 ≤ s.db.validityDays
  upper : now + s.db.validityDays * 86400 < 2 ^ 63
  level : row.powLevel < 2 ^ 8
  subject : s.db.validityDays < 0 ∨ row.publicKey = expectedSubject publicKey cert

/-! ## Arithmetic -/

theorem checkedI64_eq_some_iff {n m : Int} :
    checkedI64 n = some m ↔ (-2 ^ 63 ≤ n ∧ n < 2 ^ 63) ∧ n = m := by
  unfold checkedI64
  split_ifs with h
  · rw [Option.some.injEq, and_iff_right h]
  · exact iff_of_false (by simp) fun hfits => h hfits.1

theorem wrapI64_of_fits {n : Int} (hlow : -2 ^ 63 ≤ n) (hhigh : n < 2 ^ 63) : wrapI64 n = n := by
  unfold wrapI64
  apply Int.bmod_eq_of_le
  · omega
  · omega

/-- Nothing overflows exactly if the number of days is within bounds. -/
theorem certExpiry?_isSome_iff {now validityDays : Int} (hnow : 0 ≤ now) :
    (∃ expiresAt, certExpiry? now validityDays = some expiresAt) ↔
      -106751991167300 ≤ validityDays ∧ now + validityDays * 86400 < 2 ^ 63 := by
  simp only [certExpiry?, Option.bind_eq_some_iff, checkedI64_eq_some_iff]
  constructor
  · rintro ⟨_, _, ⟨⟨hlow, -⟩, rfl⟩, ⟨-, hhigh⟩, -⟩
    omega
  · rintro ⟨hlow, hhigh⟩
    exact ⟨_, _, ⟨⟨by omega, by omega⟩, rfl⟩, ⟨by omega, hhigh⟩, rfl⟩

theorem certExpiry_eq {now validityDays expiresAt : Int}
    (h : certExpiry? now validityDays = some expiresAt) :
    certExpiry now validityDays = expiresAt ∧ expiresAt = now + validityDays * 86400 := by
  simp only [certExpiry?, Option.bind_eq_some_iff, checkedI64_eq_some_iff] at h
  obtain ⟨_, ⟨⟨hlow, hhigh⟩, rfl⟩, ⟨hlow', hhigh'⟩, rfl⟩ := h
  rw [certExpiry, wrapI64_of_fits hlow hhigh, wrapI64_of_fits hlow' hhigh']
  exact ⟨rfl, rfl⟩

theorem certPowLevel_eq_iff {row : UserRow} :
    row.certPowLevel.map Int.ofNat = row.recordedLevel ↔ row.powLevel < 2 ^ 8 := by
  unfold UserRow.certPowLevel UserRow.recordedLevel
  split_ifs with hpos
  · show some (((row.powLevel % 2 ^ 8).toNat : ℕ) : ℤ) = some row.powLevel ↔ _
    rw [Option.some.injEq]
    omega
  · exact iff_of_true rfl (by omega)

/-! ## What is issued -/

section Issued

variable {lib : Crates} {s : AppState} {row : UserRow} {now : Int} {id : String}

/-- The payload that the hub signs for the member. -/
def AppState.certPayload (s : AppState) (lib : Crates) (now : Int) (row : UserRow) : CertPayload :=
  certPayloadFor (s.publicKeyHex lib.ed25519) ((s.db.setting "hub_url").getD "") now
    (certExpiry now s.db.validityDays) row

/-- The certification with the signature of the hub under the text. -/
def AppState.certify (s : AppState) (lib : Crates) (now : Int) (row : UserRow) (json : String) :
    Certification :=
  ⟨s.certPayload lib now row, hexEncode (lib.ed25519.sign s.hubIdentity (asBytes json))⟩

theorem serialise_eq_ok_iff {payload : CertPayload} {json : String} :
    serialise lib payload = .ok json ↔ lib.certPayloadJson payload = some json := by
  unfold serialise
  cases lib.certPayloadJson payload with
  | none => simp
  | some written => simp

/-- The row of the ledger for what the hub certifies. -/
def AppState.certIssuance (s : AppState) (lib : Crates) (now : Int) (row : UserRow)
    (id json : String) : CertIssuanceRow :=
  (s.certPayload lib now row).issuance id json
    (hexEncode (lib.ed25519.sign s.hubIdentity (asBytes json)))

/-- An approved member who is not banned gets a certification, if its payload can be written
and the identifier is fresh; it is noted at the end of the ledger. -/
theorem run_issueCertFor_eq {json : String} (hrow : row ∈ s.db.users.rows)
    (happroved : row.approvalStatus = .approved) (hbanned : s.db.bans.has row.publicKey = false)
    (hjson : lib.certPayloadJson (s.certPayload lib now row) = some json)
    (hfresh : s.db.certIssuances.has id = false) :
    ∃ certIssuances, certIssuances.rows =
        s.db.certIssuances.rows ++ [s.certIssuance lib now row id json] ∧
      (issueCertFor lib now id row.publicKey).run s =
        (.ok (s.certify lib now row json),
          { s with db := { s.db with certIssuances := certIssuances } }) := by
  have hfind : s.db.users.find? row.publicKey = some row := Table.find?_eq_some_iff.mpr ⟨hrow, rfl⟩
  have hnot : ¬ s.db.bans.has row.publicKey = true := by
    rw [hbanned]
    exact Bool.false_ne_true
  have hserialise : serialise lib (certPayloadFor (s.publicKeyHex lib.ed25519)
      ((s.db.setting "hub_url").getD "") now (certExpiry now s.db.validityDays) row) = .ok json :=
    serialise_eq_ok_iff.mpr hjson
  have hfree : s.db.certIssuances.has (s.certIssuance lib now row id json).id = false := hfresh
  obtain ⟨certIssuances, hinsert, hrows⟩ := Table.insert?_of_free hfree
  have hstored : insertCertIssuance (s.certIssuance lib now row id json) s.db =
      .ok { s.db with certIssuances := certIssuances } := by
    rw [insertCertIssuance, hinsert]
  refine ⟨certIssuances, hrows, ?_⟩
  unfold issueCertFor
  rw [Prog.run_bind_of_ok (run_fetch _ s), hfind, Option.elim_some,
    Prog.run_bind_of_ok (Prog.run_ofExcept _ s),
    Prog.run_bind_of_ok (Prog.run_ensure_of_pos happroved _ s), isBanned,
    Prog.run_bind_of_ok (run_fetch _ s), Prog.run_bind_of_ok (Prog.run_ensure_of_pos hnot _ s),
    Prog.run_bind_of_ok (run_fetch _ s), Prog.run_bind_of_ok (Prog.run_query _ s),
    Prog.run_bind_of_ok (run_fetch _ s)]
  dsimp only
  rw [hserialise, Prog.run_bind_of_ok (Prog.run_ofExcept _ s),
    Prog.run_bind_of_ok (Prog.run_query _ s)]
  exact Prog.run_bind_of_ok (run_execute_of_ok hstored)

theorem run_issueCertFor {json : String} (hrow : row ∈ s.db.users.rows)
    (happroved : row.approvalStatus = .approved) (hbanned : s.db.bans.has row.publicKey = false)
    (hjson : lib.certPayloadJson (s.certPayload lib now row) = some json)
    (hfresh : s.db.certIssuances.has id = false) :
    ((issueCertFor lib now id row.publicKey).run s).1 = .ok (s.certify lib now row json) := by
  obtain ⟨_, -, hrun⟩ := run_issueCertFor_eq hrow happroved hbanned hjson hfresh
  exact congrArg Prod.fst hrun

/-- A hub that asks for a certification only takes the one that was issued until it expires,
from whoever comes with the name that is certified. -/
theorem run_certGate_certify {json : String} {hub : AppState} {env : LoginEnv} {req : VerifyRequest}
    (hjson : lib.certPayloadJson (s.certPayload lib now row) = some json)
    (binds : lib.ed25519.Binds s.hubIdentity (asBytes json))
    (hasks : hub.AsksCertOnly lib (s.publicKeyHex lib.ed25519))
    (hcert : req.certifications = some [s.certify lib now row json]) :
    ((certGate lib env req).run hub).1 = .ok () ↔
      row.publicKey = expectedSubject req.publicKey req.subkeyCert ∧
        env.certNow ≤ (s.certify lib now row json).payload.expiresAt := by
  obtain ⟨hrequire, htrust⟩ := hasks
  have hmode : (hub.db.setting "cert_mode").getD "none" ≠ "none" := by
    rcases htrust with hany | ⟨htrusted, -⟩
    · rw [hany]
      decide
    · rw [htrusted]
      decide
  have hverifies : ∃ sigBytes payloadJson,
      hexDecode (s.certify lib now row json).signature = some sigBytes ∧
        lib.certPayloadJson (s.certify lib now row json).payload = some payloadJson ∧
        verifySignature lib.ed25519 (s.certify lib now row json).payload.issuerPubkey
          (asBytes payloadJson) sigBytes = .ok () :=
    ⟨_, json, hexDecode_hexEncode _, hjson,
      (verifySignature_sign_iff binds (hexDecode_hexEncode _)).mpr rfl⟩
  rw [run_certGate_single hcert hmode, hrequire, certSatisfies_iff]
  constructor
  · rintro ⟨hsubject, hexpiry, -⟩
    exact ⟨hsubject, hexpiry⟩
  · rintro ⟨hsubject, hexpiry⟩
    exact ⟨hsubject, hexpiry, rfl, hverifies, by simp, by simp, htrust⟩

/-- A hub that asks for a certification of any issuer. -/
def anyIssuerHub : AppState where
  db := { hubSettings := ⟨[⟨"cert_mode", "any"⟩], by decide⟩ }

theorem asksCertOnly_anyIssuerHub (issuerKey : String)
    (hrequire : (lib.readCertRequire "\x7b\x7d").getD {} = {}) :
    anyIssuerHub.AsksCertOnly lib issuerKey :=
  ⟨hrequire, .inl rfl⟩

variable {publicKey : String} {cert : Option SubkeyCert} {json : String}

/-- Where the names differ, the certification is of no use, not even when it is issued. -/
theorem Portable.subject (h : Portable lib s row publicKey cert now (s.certify lib now row json))
    (hjson : lib.certPayloadJson (s.certPayload lib now row) = some json)
    (binds : lib.ed25519.Binds s.hubIdentity (asBytes json))
    (hrequire : (lib.readCertRequire "\x7b\x7d").getD {} = {})
    (hdays : 0 ≤ s.db.validityDays) : row.publicKey = expectedSubject publicKey cert := by
  obtain ⟨hexpiry, hsum⟩ := certExpiry_eq h.expiry
  have hasks := asksCertOnly_anyIssuerHub (s.publicKeyHex lib.ed25519) hrequire
  have hgate := h.accepted anyIssuerHub hasks ⟨0, 0, now, 0, 0, []⟩
    { publicKey := publicKey, challenge := "", signature := "", subkeyCert := cert,
      certifications := some [s.certify lib now row json] } rfl rfl rfl (le_refl now)
  have hinTime : now ≤ (s.certify lib now row json).payload.expiresAt := by
    show now ≤ certExpiry now s.db.validityDays
    rw [hexpiry, hsum]
    omega
  exact ((run_certGate_certify hjson binds hasks rfl).mp (hgate.mpr hinTime)).1

theorem portable_certify_iff (hnow : 0 ≤ now)
    (hjson : lib.certPayloadJson (s.certPayload lib now row) = some json)
    (binds : lib.ed25519.Binds s.hubIdentity (asBytes json))
    (hrequire : (lib.readCertRequire "\x7b\x7d").getD {} = {}) :
    Portable lib s row publicKey cert now (s.certify lib now row json) ↔
      Transfers s row publicKey cert now := by
  constructor
  · intro h
    obtain ⟨hlower, hupper⟩ := (certExpiry?_isSome_iff hnow).mp ⟨_, h.expiry⟩
    refine ⟨hlower, hupper, certPowLevel_eq_iff.mp h.powLevel, ?_⟩
    by_cases hdays : s.db.validityDays < 0
    · exact .inl hdays
    · exact .inr (h.subject hjson binds hrequire (by omega))
  · intro h
    obtain ⟨expiresAt, hexpiry⟩ := (certExpiry?_isSome_iff hnow).mpr ⟨h.lower, h.upper⟩
    obtain ⟨heq, hsum⟩ := certExpiry_eq hexpiry
    refine ⟨?_, certPowLevel_eq_iff.mpr h.level, hexpiry.trans (congrArg some heq.symm)⟩
    intro hub hasks env req hkey hcert hshown hlater
    rw [run_certGate_certify hjson binds hasks hshown, hkey, hcert]
    rcases h.subject with hdays | hsubject
    · -- It has expired before it is shown, so the name does not matter.
      have hexpired : ¬ env.certNow ≤ (s.certify lib now row json).payload.expiresAt := by
        show ¬ env.certNow ≤ certExpiry now s.db.validityDays
        rw [heq, hsum]
        omega
      exact iff_of_false (fun hgate => hexpired hgate.2) hexpired
    · exact and_iff_right hsubject

end Issued

/-- What is issued to an approved member who is not banned can be used elsewhere with a
credential exactly if the validity and the level fit and the member's key is
the name that the credential stands for elsewhere. -/
theorem issued_portable_iff (lib : Crates) (s : AppState) (row : UserRow)
    (hrow : row ∈ s.db.users.rows) (happroved : row.approvalStatus = .approved)
    (hbanned : s.db.bans.has row.publicKey = false) (publicKey : String) (cert : Option SubkeyCert)
    (now : Int) (hnow : 0 ≤ now) (id : String) (hfresh : s.db.certIssuances.has id = false)
    (json : String) (hjson : lib.certPayloadJson (s.certPayload lib now row) = some json)
    (binds : lib.ed25519.Binds s.hubIdentity (asBytes json))
    (hrequire : (lib.readCertRequire "\x7b\x7d").getD {} = {}) :
    (∃ issued, ((issueCertFor lib now id row.publicKey).run s).1 = .ok issued ∧
      Portable lib s row publicKey cert now issued) ↔ Transfers s row publicKey cert now := by
  rw [run_issueCertFor hrow happroved hbanned hjson hfresh]
  constructor
  · rintro ⟨_, hissued, h⟩
    cases hissued
    exact (portable_certify_iff hnow hjson binds hrequire).mp h
  · exact fun h => ⟨_, rfl, (portable_certify_iff hnow hjson binds hrequire).mpr h⟩

/-! ## A laptop that joins and is paired -/

/-- The text of a payload without capabilities, without a level and without characters to
escape. -/
def certPayloadText (payload : CertPayload) : String :=
  "\x7b\"subject_kind\":\"" ++ payload.subjectKind ++ "\",\"issuer_pubkey\":\"" ++
    payload.issuerPubkey ++ "\",\"issuer_url\":\"" ++ payload.issuerUrl ++
    "\",\"subject_pubkey\":\"" ++ payload.subjectPubkey ++ "\",\"member_since\":" ++
    toString payload.memberSince ++ ",\"standing\":\"" ++ payload.standing ++
    "\",\"pow_level\":null,\"issued_at\":" ++ toString payload.issuedAt ++
    ",\"expires_at\":" ++ toString payload.expiresAt ++ ",\"capabilities\":[]\x7d"

/-- The hub certifies the laptop's key for ninety days. -/
def laptopCertification : CertPayload :=
  ⟨"user", homeHubKey, "", laptopKey, 10, "good", none, 100, 7776100, []⟩

def certificationSignature : RecordedSignature :=
  ⟨.replicate 32 5, homeHubKey, asBytes (certPayloadText laptopCertification),
    "cb5ee1e7f524e99b5b6c95ec085374ec44498f5df2828e9c181d98241c7ccb57" ++
    "b09dcd7b3cb517d2eeefed92f7525f3bb738d8e6e898e74f4afe4d042c904d07"⟩

def certLib : Crates :=
  { Crates.ofRecorded [laptopAnswer, certificationSignature,
      ⟨.replicate 32 2, ownerKey, laptopCert.toSigningBytes, laptopCert.signature⟩] with
    certPayloadJson := fun payload => some (certPayloadText payload)
    readCertRequire := fun text => if text = "\x7b\x7d" then some {} else none }

/-- The hub after the laptop has joined with its own key. -/
def joinedHub : AppState :=
  runAll (LoginCall.exec certLib) (loginWith laptopAnswer none 10 1)
    { db := .migrated, hubIdentity := .replicate 32 5 }

/-- The hub after the laptop has then logged in with a certificate of its owner. -/
def pairedHub : AppState :=
  runAll (LoginCall.exec certLib) (loginWith laptopAnswer (some laptopCert) 20 2) joinedHub

theorem certLib_binds :
    certLib.ed25519.Binds (.replicate 32 5) (asBytes (certPayloadText laptopCertification)) :=
  Ed25519.binds_ofRecorded [laptopAnswer] certificationSignature _ (by decide +kernel)
    (by decide +kernel) (by decide +kernel) (by decide +kernel)

/-- A member with a single key. -/
theorem issued_portable_joined :
    ∃ row ∈ joinedHub.db.users.rows, ∃ issued,
      ((issueCertFor certLib 100 "cert" row.publicKey).run joinedHub).1 = .ok issued ∧
        Portable certLib joinedHub row laptopKey none 100 issued := by
  obtain ⟨hrow, hbanned, hfresh, hidentity, hpayload, hlower, hupper⟩ :
      ⟨laptopKey, 10, 10, .approved, none, false, 0, none, .none, none⟩ ∈
          joinedHub.db.users.rows ∧
        joinedHub.db.bans.has laptopKey = false ∧ joinedHub.db.certIssuances.has "cert" = false ∧
        joinedHub.hubIdentity = .replicate 32 5 ∧
        joinedHub.certPayload certLib 100
          ⟨laptopKey, 10, 10, .approved, none, false, 0, none, .none, none⟩ = laptopCertification ∧
        -106751991167300 ≤ joinedHub.db.validityDays ∧
        100 + joinedHub.db.validityDays * 86400 < 2 ^ 63 := by
    decide +kernel
  have hjson := congrArg certLib.certPayloadJson hpayload
  have hbinds : certLib.ed25519.Binds joinedHub.hubIdentity
      (asBytes (certPayloadText laptopCertification)) := hidentity ▸ certLib_binds
  refine ⟨_, hrow, (issued_portable_iff certLib joinedHub _ hrow rfl hbanned laptopKey none 100
    (by decide) "cert" hfresh _ hjson hbinds (by decide +kernel)).mpr ?_⟩
  exact ⟨hlower, hupper, by decide, .inr rfl⟩

/-- The same member, paired with an owner: the laptop logs in with its certificate, the hub
certifies the laptop's key, and other hubs expect the owner's. -/
theorem not_portable_paired :
    ∃ row ∈ pairedHub.db.users.rows, row.approvalStatus = .approved ∧
      pairedHub.db.bans.has row.publicKey = false ∧
      ((resolveCanonicalIdentity certLib laptopKey (some laptopCert)).run pairedHub).1 =
        .ok (row.publicKey, some ownerKey) ∧
      ∃ issued, ((issueCertFor certLib 100 "cert" row.publicKey).run pairedHub).1 = .ok issued ∧
        ¬ Portable certLib pairedHub row laptopKey (some laptopCert) 100 issued := by
  obtain ⟨hrow, hbanned, hfresh, hidentity, hpayload, hdays, hresolved⟩ :
      ⟨laptopKey, 10, 20, .approved, some ownerKey, false, 0, none, .none, none⟩ ∈
          pairedHub.db.users.rows ∧
        pairedHub.db.bans.has laptopKey = false ∧ pairedHub.db.certIssuances.has "cert" = false ∧
        pairedHub.hubIdentity = .replicate 32 5 ∧
        pairedHub.certPayload certLib 100
          ⟨laptopKey, 10, 20, .approved, some ownerKey, false, 0, none, .none, none⟩ =
            laptopCertification ∧
        0 ≤ pairedHub.db.validityDays ∧
        ((resolveCanonicalIdentity certLib laptopKey (some laptopCert)).run pairedHub).1 =
          .ok (laptopKey, some ownerKey) := by
    decide +kernel
  have hjson := congrArg certLib.certPayloadJson hpayload
  have hbinds : certLib.ed25519.Binds pairedHub.hubIdentity
      (asBytes (certPayloadText laptopCertification)) := hidentity ▸ certLib_binds
  refine ⟨_, hrow, rfl, hbanned, hresolved, _, run_issueCertFor hrow rfl hbanned hjson hfresh,
    fun h => ?_⟩
  have hsubject := h.subject hjson hbinds (by decide +kernel) hdays
  exact absurd hsubject (by decide +kernel)

end Voxply.Hub
