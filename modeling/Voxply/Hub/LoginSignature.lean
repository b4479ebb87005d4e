/-
# What a login signature is good for

To log in at a peer a hub signs whatever bytes the peer asks it to sign, with the
key that also signs alliance invites, badges and certifications.  None of these
messages says what it is for.  This module names the places that accept a
signature of a hub's key, says for each of them which messages it accepts, and
concludes which challenges a hub can answer without giving away more than a
login.
-/

import Voxply.Hub.Federation
import Voxply.Hub.VerifyAtomicity

namespace Voxply.Hub

open Voxply.Math Voxply.Identity

variable {lib : Crates} {env : LoginEnv} {req : VerifyRequest} {s t : AppState}
  {key signature message : List UInt8}

/-! ## The property -/

/-- A call of `join_alliance` with the signature as its token makes some hub a
member of an alliance. -/
def AcceptedAsInvite (lib : Crates) (s : AppState) (signature : List UInt8) : Prop :=
  ∃ now network allianceId req hubKey, hexDecode req.inviteToken = some signature ∧
    s.db.allianceMembers.has (allianceId, hubKey) = false ∧
    ((joinAlliance lib now network allianceId req).run s).2.db.allianceMembers.has
      (allianceId, hubKey) = true

/-- `receive_badge_offer` takes the signature for one that the owner of `key` put
under a badge. -/
def AcceptedAsBadge (lib : Crates) (s : AppState) (key signature : List UInt8) : Prop :=
  ∃ id createdAt req, hexDecode req.fromHubPubkey = some key ∧
    hexDecode req.signature = some signature ∧
    ((receiveBadgeOffer lib id createdAt req).run s).1 = .ok .created

/-- The certification gate is on and takes the signature for one that the owner
of `key` put under a certification. -/
def AcceptedAsCertification (lib : Crates) (s : AppState) (key signature : List UInt8) : Prop :=
  ∃ env req cert, req.certifications = some [cert] ∧
    hexDecode cert.payload.issuerPubkey = some key ∧ hexDecode cert.signature = some signature ∧
    (s.db.setting "cert_mode").getD "none" ≠ "none" ∧ ((certGate lib env req).run s).1 = .ok ()

/-- `verify` opens a session for the owner of `key` on the signature. -/
def AcceptedAsLogin (lib : Crates) (s : AppState) (key signature : List UInt8) : Prop :=
  ∃ env req row, hexDecode req.publicKey = some key ∧ hexDecode req.signature = some signature ∧
    row ∉ s.db.sessions.rows ∧ row ∈ ((verify lib env req).run s).2.db.sessions.rows ∧
    hexDecode row.publicKey = some key

section Network

variable {ι : Type} (lib : Crates) (hubs : ι → AppState) (home peer : ι)

/-- A signature of the hub at `home` is accepted nowhere but as a login at
`peer`. -/
structure SinglePurpose (signature : List UInt8) : Prop where
  invite : ¬ AcceptedAsInvite lib (hubs home) signature
  badge : ∀ i, ¬ AcceptedAsBadge lib (hubs i) (lib.ed25519.publicKey (hubs home).hubIdentity)
    signature
  certification : ∀ i, ¬ AcceptedAsCertification lib (hubs i)
    (lib.ed25519.publicKey (hubs home).hubIdentity) signature
  login : ∀ i, i ≠ peer → ¬ AcceptedAsLogin lib (hubs i)
    (lib.ed25519.publicKey (hubs home).hubIdentity) signature

/-- Whatever the hub at `home` sends to log in at `peer`, which behaves like
`remote`, is single-purpose. -/
def LoginsSinglePurpose (remote : Remote) : Prop :=
  ∀ req signature, answerPeer lib.ed25519 (hubs home).hubIdentity remote = .ok req →
    hexDecode req.signature = some signature → SinglePurpose lib hubs home peer signature

end Network

/-! ## Invites -/

/-- The members of all alliances stay. -/
def SameMembers (s t : AppState) : Prop :=
  t.db.allianceMembers = s.db.allianceMembers

theorem SameMembers.refl (s : AppState) : SameMembers s s := rfl

theorem SameMembers.trans (a b c : AppState) (hab : SameMembers a b) (hbc : SameMembers b c) :
    SameMembers a c :=
  Eq.trans hbc hab

theorem changes_peerWith (now : Int) (peer : Remote) (hubUrl : String) (hubInfo : InfoResponse) :
    (peerWith lib now peer hubUrl hubInfo).Changes SameMembers := by
  apply Prog.Changes.bind SameMembers.trans (Prog.changes_query SameMembers.refl _)
  intro _
  apply Prog.changes_when SameMembers.refl
  apply Prog.Changes.bind SameMembers.trans
  · apply changes_execute SameMembers.refl
    intro s db hdb
    unfold insertPeer at hdb
    split at hdb
    · cases hdb
    · cases hdb
      rfl
  intro _
  apply Prog.Changes.bind SameMembers.trans (Prog.changes_query SameMembers.refl _)
  intro identity
  cases authenticate lib.ed25519 identity peer with
  | ok token => exact Prog.changes_exec fun _ => rfl
  | error e => exact Prog.changes_ret SameMembers.refl _

/-- What the insertion of a member leaves: the row is there if it was there before
or the alliance is known. -/
theorem has_insertAllianceMember (row : AllianceMemberRow) (s : AppState)
    (memberKey : String × String) :
    ((execute (insertAllianceMemberOrIgnore row)).run s).2.db.allianceMembers.has memberKey = true ↔
      s.db.allianceMembers.has memberKey = true ∨
        row.key = memberKey ∧ s.db.alliances.has row.allianceId = true := by
  cases hinsert : s.db.allianceMembers.insert? row with
  | none =>
      have hok : insertAllianceMemberOrIgnore row s.db = .ok s.db := by
        rw [insertAllianceMemberOrIgnore, hinsert]
      rw [run_execute_of_ok hok, withDb_self]
      have htaken := Table.has_iff.mpr (Table.insert?_eq_none_iff.mp hinsert)
      refine ⟨.inl, fun h => h.elim id ?_⟩
      rintro ⟨rfl, -⟩
      exact htaken
  | some members =>
      by_cases hknown : s.db.alliances.has row.allianceId = true
      · have hok : insertAllianceMemberOrIgnore row s.db =
            .ok { s.db with allianceMembers := members } := by
          rw [insertAllianceMemberOrIgnore, hinsert]
          exact if_pos hknown
        rw [run_execute_of_ok hok, and_iff_left hknown]
        exact Table.has_of_append (Table.insert?_eq_some_iff.mp hinsert).2 memberKey
      · have herror : insertAllianceMemberOrIgnore row s.db = .error .foreignKey := by
          rw [insertAllianceMemberOrIgnore, hinsert]
          exact if_neg hknown
        rw [run_execute_of_error herror]
        simp [hknown]

/-- A hub becomes a member exactly if the token passes, the alliance is known and
the hub answers under its key. -/
theorem newMember_iff {now : Int} {network : String → Remote} {allianceId hubKey : String}
    {req : JoinAllianceRequest} (hnew : s.db.allianceMembers.has (allianceId, hubKey) = false) :
    ((joinAlliance lib now network allianceId req).run s).2.db.allianceMembers.has
        (allianceId, hubKey) = true ↔
      checkInviteToken lib.ed25519 (s.publicKeyHex lib.ed25519) allianceId req.inviteToken =
      .ok () ∧
        s.db.alliances.has allianceId = true ∧
        ∃ hubInfo, getInfo (network req.hubUrl) = .ok hubInfo ∧ hubInfo.publicKey = hubKey := by
  unfold joinAlliance
  rw [Prog.run_bind_of_ok (Prog.run_query _ s), Prog.run_bind', Prog.run_ofExcept]
  cases checkInviteToken lib.ed25519 (s.publicKeyHex lib.ed25519) allianceId req.inviteToken with
  | error e => simp [hnew]
  | ok _ =>
      dsimp only
      rw [Prog.run_bind', Prog.run_ofExcept]
      cases getInfo (network req.hubUrl) with
      | error e => simp [hnew, Except.mapError]
      | ok hubInfo =>
          -- After the insertion the members stay as they are.
          have hpeering : ∀ _ : Unit, (do
              peerWith lib now (network req.hubUrl) req.hubUrl hubInfo
              pure .ok : Handler StatusCode).Changes SameMembers := fun _ =>
            Prog.Changes.bind SameMembers.trans (changes_peerWith now _ _ hubInfo)
              fun _ => Prog.changes_ret SameMembers.refl _
          simp only [Except.mapError, true_and, Except.ok.injEq, exists_eq_left']
          rw [Prog.run_bind_changes SameMembers.refl _ hpeering s, has_insertAllianceMember, hnew]
          simp [AllianceMemberRow.key, and_comm]

/-- The token of an alliance is the signature of its id, in any spelling. -/
theorem checkInviteToken_sign_iff (binds : lib.ed25519.Binds s.hubIdentity message)
    {inviteToken : String}
    (htoken : hexDecode inviteToken = some (lib.ed25519.sign s.hubIdentity message))
    (allianceId : String) :
    checkInviteToken lib.ed25519 (s.publicKeyHex lib.ed25519) allianceId inviteToken = .ok () ↔
      asBytes allianceId = message := by
  rw [← verifySignature_sign_iff binds (hexDecode_hexEncode _), checkInviteToken, htoken]
  exact mapError_eq_ok_iff

/-- The invites that a hub hands out are tokens of the alliance they name. -/
theorem checkInviteToken_createInvite {user allianceId : String}
    {invite : AllianceInviteResponse}
    (binds : lib.ed25519.Binds s.hubIdentity (asBytes allianceId))
    (h : ((createInvite lib user allianceId).run s).1 = .ok invite) :
    checkInviteToken lib.ed25519 (s.publicKeyHex lib.ed25519) invite.allianceId invite.token =
      .ok () := by
  unfold createInvite at h
  rw [Prog.run_bind_of_ok (run_userPermissions user s), Prog.run_bind', Prog.run_ofExcept] at h
  cases hperms : (s.db.userPermissions user).require admin with
  | error e =>
      rw [hperms] at h
      cases h
  | ok _ =>
      rw [hperms] at h
      dsimp only at h
      rw [Prog.run_bind_of_ok (run_fetch _ s), Prog.run_bind', Prog.run_ofExcept] at h
      cases halliance : s.db.alliances.find? allianceId with
      | none =>
          rw [halliance] at h
          cases h
      | some alliance =>
          rw [halliance] at h
          cases h
          apply (checkInviteToken_sign_iff binds (hexDecode_hexEncode _) _).mpr
          rw [(Table.find?_eq_some_iff.mp halliance).2]

/-- A login signature is an invite to the alliance whose id was signed. -/
theorem acceptedAsInvite_iff (binds : lib.ed25519.Binds s.hubIdentity message) :
    AcceptedAsInvite lib s (lib.ed25519.sign s.hubIdentity message) ↔
      ∃ alliance ∈ s.db.alliances.rows, asBytes alliance.id = message := by
  constructor
  · rintro ⟨now, network, allianceId, req, hubKey, htoken, hnew, hmember⟩
    obtain ⟨hcheck, hknown, -⟩ := (newMember_iff hnew).mp hmember
    obtain ⟨alliance, halliance, rfl⟩ := Table.has_iff.mp hknown
    exact ⟨alliance, halliance, (checkInviteToken_sign_iff binds htoken _).mp hcheck⟩
  · rintro ⟨alliance, halliance, hid⟩
    -- Any hub that is not a member yet can use it.
    obtain ⟨bytes, hfree⟩ := s.db.allianceMembers.exists_free
      (f := fun bytes => (alliance.id, hexEncode bytes))
      fun first second h => hexEncode_injective (Prod.mk.inj h).2
    refine ⟨0, fun _ => ⟨.json ⟨"", hexEncode bytes⟩, fun _ => .unreachable, fun _ => .unreachable⟩,
      alliance.id, ⟨hexEncode (lib.ed25519.sign s.hubIdentity message), ""⟩, hexEncode bytes,
      hexDecode_hexEncode _, hfree, ?_⟩
    rw [newMember_iff hfree]
    exact ⟨(checkInviteToken_sign_iff binds (hexDecode_hexEncode _) _).mpr hid,
      Table.has_iff.mpr ⟨alliance, halliance, rfl⟩, _, rfl, rfl⟩

/-! ## Badges -/

theorem checkBadgeOffer_eq_ok_iff {ourPubkey : String} {offer : BadgeOfferRequest} :
    checkBadgeOffer lib ourPubkey offer = .ok () ↔
      ∃ payload sigBytes, lib.readBadgePayload offer.payload = some payload ∧
        payload.subjectPubkey = ourPubkey ∧ hexDecode offer.signature = some sigBytes ∧
        verifySignature lib.ed25519 offer.fromHubPubkey (asBytes offer.payload) sigBytes = .ok () ∧
        payload.issuerPubkey = offer.fromHubPubkey := by
  unfold checkBadgeOffer
  cases lib.readBadgePayload offer.payload with
  | none => simp
  | some payload =>
      by_cases hsubject : payload.subjectPubkey = ourPubkey
      · cases hexDecode offer.signature with
        | none => simp [hsubject]
        | some sigBytes =>
            cases hverify : verifySignature lib.ed25519 offer.fromHubPubkey
                (asBytes offer.payload) sigBytes with
            | error e => simp [hsubject, hverify]
            | ok _ => simp [hsubject, hverify]
      · simp [hsubject]

/-- An offer that passes the checks is stored under a fresh identifier. -/
theorem receiveBadgeOffer_eq_ok_iff {id createdAt : String} {offer : BadgeOfferRequest} :
    ((receiveBadgeOffer lib id createdAt offer).run s).1 = .ok .created ↔
      checkBadgeOffer lib (s.publicKeyHex lib.ed25519) offer = .ok () ∧
        s.db.badgeOffers.has id = false := by
  unfold receiveBadgeOffer
  rw [Prog.run_bind_of_ok (Prog.run_query _ s), Prog.run_bind', Prog.run_ofExcept]
  cases checkBadgeOffer lib (s.publicKeyHex lib.ed25519) offer with
  | error e => simp
  | ok _ =>
      dsimp only
      rw [and_iff_right rfl]
      cases hinsert : s.db.badgeOffers.insert? ⟨id, offer.fromHubPubkey, offer.fromHubUrl,
          offer.label, offer.note, offer.payload, offer.signature, createdAt⟩ with
      | none =>
          have htaken := Table.has_iff.mpr (Table.insert?_eq_none_iff.mp hinsert)
          rw [Prog.run_bind_of_error (run_execute_of_error (by rw [insertBadgeOffer, hinsert]))]
          simpa using htaken
      | some badgeOffers =>
          have hfree := Table.has_eq_false_iff.mpr (Table.insert?_eq_some_iff.mp hinsert).1
          rw [Prog.run_bind_of_ok (run_execute_of_ok (by rw [insertBadgeOffer, hinsert]))]
          exact iff_of_true rfl hfree

/-- The message reads as a badge that the owner of `key` issues to the hub. -/
def ReadsAsBadge (lib : Crates) (s : AppState) (key message : List UInt8) : Prop :=
  ∃ text payload, asBytes text = message ∧ lib.readBadgePayload text = some payload ∧
    payload.subjectPubkey = s.publicKeyHex lib.ed25519 ∧
    hexDecode payload.issuerPubkey = some key

theorem acceptedAsBadge_iff {seed : List UInt8} (binds : lib.ed25519.Binds seed message) :
    AcceptedAsBadge lib s (lib.ed25519.publicKey seed) (lib.ed25519.sign seed message) ↔
      ReadsAsBadge lib s (lib.ed25519.publicKey seed) message := by
  constructor
  · rintro ⟨id, createdAt, offer, hkey, hsignature, hcreated⟩
    obtain ⟨hcheck, -⟩ := receiveBadgeOffer_eq_ok_iff.mp hcreated
    obtain ⟨payload, sigBytes, hread, hsubject, hdecode, hverify, hissuer⟩ :=
      checkBadgeOffer_eq_ok_iff.mp hcheck
    cases hdecode.symm.trans hsignature
    exact ⟨offer.payload, payload, (verifySignature_sign_iff binds hkey).mp hverify, hread,
      hsubject, hissuer ▸ hkey⟩
  · rintro ⟨text, payload, htext, hread, hsubject, hissuer⟩
    obtain ⟨bytes, hfree⟩ := s.db.badgeOffers.exists_free hexEncode_injective
    refine ⟨hexEncode bytes, "", ⟨payload.issuerPubkey, "", "", none, text,
      hexEncode (lib.ed25519.sign seed message)⟩, hissuer, hexDecode_hexEncode _, ?_⟩
    rw [receiveBadgeOffer_eq_ok_iff, checkBadgeOffer_eq_ok_iff]
    exact ⟨⟨payload, _, hread, hsubject, hexDecode_hexEncode _,
      (verifySignature_sign_iff binds hissuer).mpr htext, rfl⟩, hfree⟩

/-! ## Certifications -/

/-- Everything but the signature is in order: the settings of the hub accept what
the payload says of its subject, at some moment before it expires. -/
def Db.Honours (db : Db) (lib : Crates) (payload : CertPayload) : Prop :=
  let mode := (db.setting "cert_mode").getD "none"
  let trustedIssuers :=
    (lib.readTrustedIssuers ((db.setting "cert_trusted_issuers").getD "[]")).getD []
  let certRequire := (lib.readCertRequire ((db.setting "cert_require").getD "\x7b\x7d")).getD {}
  payload.standing = "good" ∧
    (mode = "any" ∨ mode = "trusted" ∧ ∃ issuer ∈ trustedIssuers,
      issuer.pubkey = payload.issuerPubkey) ∧
    (∀ minPow ∈ certRequire.minPowLevel, ∃ level ∈ payload.powLevel, minPow ≤ level) ∧
    ∀ minDays ∈ certRequire.minMemberSinceDays,
      payload.memberSince + minDays * 86400 ≤ payload.expiresAt

/-- The message reads as a certification that the owner of `key` issues and the
hub honours. -/
def ReadsAsCertification (lib : Crates) (s : AppState) (key message : List UInt8) : Prop :=
  ∃ payload json, lib.certPayloadJson payload = some json ∧ asBytes json = message ∧
    hexDecode payload.issuerPubkey = some key ∧ s.db.Honours lib payload

theorem certSatisfies_iff {now : Int} {mode masterPk : String}
    {trustedIssuers : List TrustedIssuer} {certRequire : CertRequire} {cert : Certification} :
    certSatisfies lib now mode masterPk trustedIssuers certRequire cert = true ↔
      cert.payload.subjectPubkey = masterPk ∧ now ≤ cert.payload.expiresAt ∧
      cert.payload.standing = "good" ∧
      (∃ sigBytes payloadJson, hexDecode cert.signature = some sigBytes ∧
        lib.certPayloadJson cert.payload = some payloadJson ∧
        verifySignature lib.ed25519 cert.payload.issuerPubkey (asBytes payloadJson) sigBytes =
          .ok ()) ∧
      (∀ minPow ∈ certRequire.minPowLevel, ∃ level ∈ cert.payload.powLevel, minPow ≤ level) ∧
      (∀ minDays ∈ certRequire.minMemberSinceDays,
        cert.payload.memberSince ≤ now - minDays * 86400) ∧
      (mode = "any" ∨ mode = "trusted" ∧ ∃ issuer ∈ trustedIssuers,
        issuer.pubkey = cert.payload.issuerPubkey) := by
  unfold certSatisfies
  dsimp only
  cases hexDecode cert.signature with
  | none => simp
  | some sigBytes =>
      cases lib.certPayloadJson cert.payload with
      | none => simp
      | some payloadJson =>
          cases hverify : verifySignature lib.ed25519 cert.payload.issuerPubkey
              (asBytes payloadJson) sigBytes with
          | error e => simp [hverify, Except.isOk, Except.toBool]
          | ok _ =>
              cases certRequire.minPowLevel <;> cases certRequire.minMemberSinceDays <;>
                simp [hverify, Except.isOk, Except.toBool, and_assoc, Option.any_eq_true]

/-- A gate that is on and sees one certification decides by it. -/
theorem run_certGate_single {cert : Certification} (hreq : req.certifications = some [cert])
    (hmode : (s.db.setting "cert_mode").getD "none" ≠ "none") :
    ((certGate lib env req).run s).1 = .ok () ↔
      certSatisfies lib env.certNow ((s.db.setting "cert_mode").getD "none")
        ((req.subkeyCert.map (·.masterPubkey)).getD req.publicKey)
        ((lib.readTrustedIssuers ((s.db.setting "cert_trusted_issuers").getD "[]")).getD [])
        ((lib.readCertRequire ((s.db.setting "cert_require").getD "\x7b\x7d")).getD {}) cert =
          true := by
  rw [run_certGate, Db.certCheck, hreq]
  simp [hmode]

theorem acceptedAsCertification_iff {seed : List UInt8} (binds : lib.ed25519.Binds seed message) :
    AcceptedAsCertification lib s (lib.ed25519.publicKey seed) (lib.ed25519.sign seed message) ↔
      ReadsAsCertification lib s (lib.ed25519.publicKey seed) message := by
  constructor
  · rintro ⟨env, req, cert, hreq, hissuer, hsignature, hmode, hgate⟩
    rw [run_certGate_single hreq hmode, certSatisfies_iff] at hgate
    obtain ⟨-, hexpiry, hstanding, ⟨sigBytes, json, hdecode, hjson, hverify⟩, hpow,
        hdays, htrust⟩ :=
      hgate
    cases hdecode.symm.trans hsignature
    refine ⟨cert.payload, json, hjson, (verifySignature_sign_iff binds hissuer).mp hverify, hissuer,
      hstanding, htrust, hpow, ?_⟩
    intro minDays hminDays
    have hsince := hdays minDays hminDays
    omega
  · rintro ⟨payload, json, hjson, hmessage, hissuer, hstanding, htrust, hpow, hdays⟩
    have hmode : (s.db.setting "cert_mode").getD "none" ≠ "none" := by
      rcases htrust with hany | ⟨htrusted, -⟩
      · rw [hany]
        decide
      · rw [htrusted]
        decide
    -- The subject presents it on the last day it is good for.
    refine ⟨⟨0, 0, payload.expiresAt, 0, 0, []⟩,
      { publicKey := payload.subjectPubkey, challenge := "", signature := "",
        certifications := some [⟨payload, hexEncode (lib.ed25519.sign seed message)⟩] },
      ⟨payload, hexEncode (lib.ed25519.sign seed message)⟩, rfl, hissuer, hexDecode_hexEncode _,
      hmode, ?_⟩
    rw [run_certGate_single rfl hmode, certSatisfies_iff]
    refine ⟨rfl, le_refl _, hstanding, ⟨_, json, hexDecode_hexEncode _, hjson,
      (verifySignature_sign_iff binds hissuer).mpr hmessage⟩, hpow, ?_, htrust⟩
    intro minDays hminDays
    have hsince := hdays minDays hminDays
    change payload.memberSince ≤ payload.expiresAt - minDays * 86400
    omega

/-! ## Logins -/

/-- A signature answers the challenge that was signed, as long as it is
pending. -/
theorem challengeAnswer_sign_iff {seed : List UInt8} (binds : lib.ed25519.Binds seed message)
    (hkey : hexDecode req.publicKey = some (lib.ed25519.publicKey seed))
    (hsignature : hexDecode req.signature = some (lib.ed25519.sign seed message))
    (pending : PendingChallenge) :
    challengeAnswer lib env req (some pending) = .ok () ↔
      env.instant ≤ pending.expiresAt ∧ hexDecode req.challenge = some pending.challengeBytes ∧
        pending.challengeBytes = message := by
  unfold challengeAnswer answeredChallenge
  dsimp only
  by_cases hexpired : env.instant > pending.expiresAt
  · simp [hexpired]
  · rw [if_neg hexpired, and_iff_right (Nat.le_of_not_lt hexpired)]
    cases hexDecode req.challenge with
    | none => simp
    | some challengeBytes =>
        by_cases hchallenge : challengeBytes = pending.challengeBytes
        · subst hchallenge
          simp only [ne_eq, not_true_eq_false, if_false, hsignature, true_and]
          rw [checkLoginSignature, mapError_eq_ok_iff, verifySignature_sign_iff binds hkey]
        · simp [hchallenge]

/-- Some request of the owner of `key` gets past the gates of the hub, and not as
somebody else. -/
def Db.Admits (db : Db) (lib : Crates) (key : List UInt8) (publicKey : String) : Prop :=
  ∃ env req, req.publicKey = publicKey ∧ checkCert lib.ed25519 publicKey req.subkeyCert = .ok () ∧
    hexDecode (canonicalKey req db) = some key ∧ BotPasses req db (canonicalKey req db) ∧
    ∃ minLevel, db.admission lib env req (canonicalKey req db) = .ok minLevel

/-- The hub has sent the message to the owner of `key` as a challenge, and would
let it in. -/
def AwaitsLogin (lib : Crates) (s : AppState) (key message : List UInt8) : Prop :=
  ∃ publicKey pending, hexDecode publicKey = some key ∧
    s.pendingChallenges publicKey = some pending ∧ pending.challengeBytes = message ∧
    s.db.Admits lib key publicKey

theorem acceptedAsLogin_iff {seed : List UInt8} (binds : lib.ed25519.Binds seed message) :
    AcceptedAsLogin lib s (lib.ed25519.publicKey seed) (lib.ed25519.sign seed message) ↔
      AwaitsLogin lib s (lib.ed25519.publicKey seed) message := by
  constructor
  · rintro ⟨env, req, row, hkey, hsignature, hnew, hrow, hrowKey⟩
    obtain ⟨⟨⟨hanswer, hcert⟩, hbot, hgates⟩, -, rfl⟩ := (newSession_iff hnew).mp hrow
    cases hpending : s.pendingChallenges req.publicKey with
    | none =>
        rw [hpending] at hanswer
        cases hanswer
    | some pending =>
        rw [hpending, challengeAnswer_sign_iff binds hkey hsignature] at hanswer
        exact ⟨req.publicKey, pending, hkey, hpending, hanswer.2.2, env, req, rfl, hcert, hrowKey,
          hbot, hgates⟩
  · rintro ⟨publicKey, pending, hkey, hpending, hmessage, env, req, rfl, hcert, hcanonical, hbot,
      hgates⟩
    obtain ⟨tokenBytes, hfree⟩ := s.db.sessions.exists_free hexEncode_injective
    have hfresh := Table.has_eq_false_iff.mp hfree
    -- The same request with the challenge and the signature filled in.
    let answer : VerifyRequest :=
      { req with
        challenge := hexEncode message
        signature := hexEncode (lib.ed25519.sign seed message) }
    let moment : LoginEnv := { env with instant := 0, tokenBytes := tokenBytes }
    have hanswerKey : hexDecode answer.publicKey = some (lib.ed25519.publicKey seed) := hkey
    have hfilled : challengeAnswer lib moment answer (some pending) = .ok () ↔ _ :=
      challengeAnswer_sign_iff binds hanswerKey (hexDecode_hexEncode _) pending
    have hanswer : challengeAnswer lib moment answer (s.pendingChallenges req.publicKey) =
        .ok () := by
      rw [hpending]
      exact hfilled.mpr ⟨Nat.zero_le _, hmessage ▸ hexDecode_hexEncode _, hmessage⟩
    have hnew : (⟨moment.token, canonicalKey req s.db, env.now⟩ : SessionRow) ∉
        s.db.sessions.rows := fun hold => hfresh _ hold rfl
    exact ⟨moment, answer, _, hkey, hexDecode_hexEncode _, hnew,
      (newSession_iff hnew).mpr ⟨⟨⟨hanswer, hcert⟩, hbot, hgates⟩, hfresh, rfl⟩, hcanonical⟩

/-! ## Every challenge -/

/-- The message means nothing to any hub but, possibly, a login at `peer`. -/
structure Meaningless {ι : Type} (lib : Crates) (hubs : ι → AppState) (home peer : ι)
    (message : List UInt8) : Prop where
  alliance : ∀ alliance ∈ (hubs home).db.alliances.rows, asBytes alliance.id ≠ message
  badge : ∀ i, ¬ ReadsAsBadge lib (hubs i) (lib.ed25519.publicKey (hubs home).hubIdentity) message
  certification : ∀ i, ¬ ReadsAsCertification lib (hubs i)
    (lib.ed25519.publicKey (hubs home).hubIdentity) message
  login : ∀ i, i ≠ peer → ¬ AwaitsLogin lib (hubs i)
    (lib.ed25519.publicKey (hubs home).hubIdentity) message

theorem singlePurpose_sign_iff {ι : Type} {hubs : ι → AppState} {home peer : ι}
    (binds : lib.ed25519.Binds (hubs home).hubIdentity message) :
    SinglePurpose lib hubs home peer (lib.ed25519.sign (hubs home).hubIdentity message) ↔
      Meaningless lib hubs home peer message := by
  have hinvite := acceptedAsInvite_iff binds
  constructor
  · intro h
    refine ⟨fun alliance halliance hid => h.invite (hinvite.mpr ⟨alliance, halliance, hid⟩),
      fun i hreads => h.badge i ?_, fun i hreads => h.certification i ?_,
      fun i hi hawaits => h.login i hi ?_⟩
    · exact (acceptedAsBadge_iff binds).mpr hreads
    · exact (acceptedAsCertification_iff binds).mpr hreads
    · exact (acceptedAsLogin_iff binds).mpr hawaits
  · intro h
    refine ⟨fun haccepted => ?_, fun i haccepted => h.badge i ?_,
      fun i haccepted => h.certification i ?_, fun i hi haccepted => h.login i hi ?_⟩
    · obtain ⟨alliance, halliance, hid⟩ := hinvite.mp haccepted
      exact h.alliance alliance halliance hid
    · exact (acceptedAsBadge_iff binds).mp haccepted
    · exact (acceptedAsCertification_iff binds).mp haccepted
    · exact (acceptedAsLogin_iff binds).mp haccepted

/-- The peer asks the hub to sign `message`. -/
def Remote.Asks (remote : Remote) (publicKeyHex : String) (message : List UInt8) : Prop :=
  ∃ challenge, remote.challenge publicKeyHex = .json challenge ∧ hexDecode challenge = some message

/-- **What a login signature is good for.** However a peer behaves, the signature
that a hub sends to log in there is accepted nowhere else exactly if the bytes
the peer asked for are no alliance's id, no badge, no certification and no
challenge of another hub. -/
theorem loginsSinglePurpose_iff {ι : Type} (lib : Crates) (hubs : ι → AppState) (home peer : ι)
    (remote : Remote)
    (hbinds : ∀ message, remote.Asks ((hubs home).publicKeyHex lib.ed25519) message →
      lib.ed25519.Binds (hubs home).hubIdentity message) :
    LoginsSinglePurpose lib hubs home peer remote ↔
      ∀ message, remote.Asks ((hubs home).publicKeyHex lib.ed25519) message →
        Meaningless lib hubs home peer message := by
  constructor
  · rintro h message ⟨challenge, hasked, hdecode⟩
    apply (singlePurpose_sign_iff (hbinds message ⟨challenge, hasked, hdecode⟩)).mp
    exact h _ _ (answerPeer_eq_ok_iff.mpr ⟨challenge, message, hasked, hdecode, rfl⟩)
      (hexDecode_hexEncode _)
  · intro h req signature hanswer hsignature
    obtain ⟨challenge, message, hasked, hdecode, rfl⟩ := answerPeer_eq_ok_iff.mp hanswer
    rw [hexDecode_hexEncode, Option.some.injEq] at hsignature
    subst hsignature
    exact (singlePurpose_sign_iff (hbinds message ⟨challenge, hasked, hdecode⟩)).mpr
      (h message ⟨challenge, hasked, hdecode⟩)

/-- A hub, the id of its alliance and a challenge of the usual kind. -/
def homeHubKey : String := "6e7a1cdd29b0b78fd13af4c5598feff4ef2a97166e3ca6f2e4fbfccd80505bf1"

def peerHubKey : String := "8a875fff1eb38451577acd5afee405456568dd7c89e090863a0557bc7af49f17"

def homeAlliance : String := "6f9619ff-8b86-4d01-b42d-00cf4fc964ff"

def allianceSignature : RecordedSignature :=
  ⟨.replicate 32 5, homeHubKey, asBytes homeAlliance,
    "6677d60b75ba35f4171649269c26ae2661517433f0ce4c12b4ba1cb40ecb1c9a" ++
    "5416986a3d1dc688d2af608daae46af8931dd98c4b8aec0fbd4e37e12b545509"⟩

def challengeSignature : RecordedSignature :=
  ⟨.replicate 32 5, homeHubKey, .replicate 32 0xd7,
    "5c3d32bbe97599b766eb102fed7bcae76da88ff2b274e9d3570f8d1ff36d9ff5" ++
    "741b17c9b667a663f018127515629d4cdbab2cf7aa9feed0d48ffa645b5ae30a"⟩

def hubLib : Crates := .ofRecorded [allianceSignature, challengeSignature]

/-- A peer that asks for the signature of a message of its choice. -/
def Remote.asking (message : List UInt8) : Remote :=
  ⟨.json ⟨"peer", peerHubKey⟩, fun _ => .json (hexEncode message), fun _ => .unreachable⟩

/-- The hub, at `true`, and a peer that has sent it the challenge. -/
def twoHubs : Bool → AppState
  | true =>
      { hubIdentity := .replicate 32 5
        db := { Db.migrated with
          alliances := ⟨[⟨homeAlliance, "home", ownerKey, 1⟩], by decide⟩ } }
  | false =>
      AppState.setChallenge { db := .migrated, hubIdentity := .replicate 32 6 } homeHubKey
        (some ⟨challengeSignature.message, 60⟩)

theorem hubLib_binds_challenge :
    hubLib.ed25519.Binds (.replicate 32 5) challengeSignature.message :=
  Ed25519.binds_ofRecorded [allianceSignature] challengeSignature [] (by decide +kernel)
    (by decide +kernel) (by decide +kernel) (by decide +kernel)

/-- Thirty-two bytes that mean nothing elsewhere: the peer lets the hub in, and
nobody else accepts the signature. -/
theorem loginsSinglePurpose_challenge :
    ((verify hubLib (.fixed 10 1) (.ofRecorded challengeSignature)).run (twoHubs false)).1.isOk =
        true ∧
      LoginsSinglePurpose hubLib twoHubs true false (.asking challengeSignature.message) := by
  have hasked : ∀ message, (Remote.asking challengeSignature.message).Asks
      ((twoHubs true).publicKeyHex hubLib.ed25519) message →
        message = challengeSignature.message := by
    rintro message ⟨challenge, hchallenge, hdecode⟩
    cases hchallenge
    rw [hexDecode_hexEncode] at hdecode
    exact (Option.some.inj hdecode).symm
  refine ⟨by decide +kernel, (loginsSinglePurpose_iff hubLib twoHubs true false _ ?_).mpr ?_⟩
  · intro message hmessage
    rw [hasked message hmessage]
    exact hubLib_binds_challenge
  · intro message hmessage
    rw [hasked message hmessage]
    refine ⟨by decide +kernel, ?_, ?_, ?_⟩
    · rintro i ⟨text, payload, -, hread, -⟩
      cases hread
    · rintro i ⟨payload, json, hjson, -⟩
      cases hjson
    · rintro (_ | _) hi ⟨publicKey, pending, -, hpending, -⟩
      · exact hi rfl
      · cases hpending

/-- A peer asks for the signature of an alliance's id and has an invite. -/
theorem allianceChallenge_not_singlePurpose :
    ¬ LoginsSinglePurpose hubLib twoHubs true false (.asking (asBytes homeAlliance)) := by
  intro h
  obtain ⟨hanswer, hjoined, hdecodes⟩ :
      answerPeer hubLib.ed25519 (twoHubs true).hubIdentity (.asking (asBytes homeAlliance)) =
          .ok (.ofRecorded allianceSignature) ∧
        ((joinAlliance hubLib 20 (fun _ => .asking (asBytes homeAlliance)) homeAlliance
          ⟨allianceSignature.signatureHex, "peer"⟩).run (twoHubs true)).2.db.allianceMembers.has
            (homeAlliance, peerHubKey) = true ∧
        (hexDecode allianceSignature.signatureHex).isSome = true := by
    decide +kernel
  obtain ⟨signature, hsignature⟩ := Option.isSome_iff_exists.mp hdecodes
  exact (h _ signature hanswer hsignature).invite
    ⟨20, _, homeAlliance, _, peerHubKey, hsignature, rfl, hjoined⟩

end Voxply.Hub
