/-
# Public profiles

A user publishes a profile: a display name, an avatar and the hubs to find them
on, signed with their key.  Hubs store the profile as JSON and serve it to
anyone, so that readers rely on the signature and not on the hub.  The signature
covers the key, the list of hubs and the time of issue.  It covers neither the
display name nor the avatar: two profiles with one signature agree on what is
served exactly if they happen to agree on these two.
-/

import Voxply.Hub.CanonicalIdentity
import Voxply.Hub.IdentityStore
import Voxply.Identity.DomainSeparation

namespace Voxply.Hub

open Voxply.Math Voxply.Identity

/-! ## The handlers -/

/-- `serde_json` on profiles. The answer of `get_profile` is JSON again; it is
given by the profile it is the JSON of. -/
structure ProfileJson where
  writeProfile : PublicHubProfile → Except String String
  readProfile : String → Except String PublicHubProfile

/-- What has been written is read back. -/
def ProfileJson.RoundTrips (json : ProfileJson) : Prop :=
  ∀ profile text, json.writeProfile profile = .ok text → json.readProfile text = .ok profile

/-- `get_profile`. -/
def getProfile (json : ProfileJson) (pubkey : String) : Handler PublicHubProfile := do
  let row ← fetch (·.publicHubProfiles.find? pubkey)
  match row with
  | none => .fail ⟨.notFound, "No profile"⟩
  | some row =>
      .ofExcept ((json.readProfile row.profileJson).mapError
        fun e => dbErr ("parse stored profile: " ++ e))

/-- `INSERT INTO public_hub_profiles … ON CONFLICT DO UPDATE`. -/
def upsertProfile (pubkey profileJson : String) (now : Int) (db : Db) : Db :=
  { db with
    publicHubProfiles := db.publicHubProfiles.upsert ⟨pubkey, profileJson, now⟩
      (fun row => { row with profileJson := profileJson, updatedAt := now }) fun _ => rfl }

/-- `put_profile`. -/
def putProfile (E : Ed25519) (json : ProfileJson) (now : Int) (user pubkey : String)
    (body : PublicHubProfile) : Handler StatusCode := do
  .ensure (pubkey = user) ⟨.forbidden, "Cannot update another user's profile"⟩
  .ensure (body.pubkey = pubkey) ⟨.badRequest, "pubkey mismatch between URL and body"⟩
  .ofExcept ((body.verify E).mapError fun e => ⟨.badRequest, "Bad signature: " ++ e⟩)
  let jsonStr ← .ofExcept ((json.writeProfile body).mapError
    fun e => dbErr ("serialize profile: " ++ e))
  write (upsertProfile pubkey jsonStr now)
  pure .ok

/-- What is served is what was stored, every field of it, and it verifies. -/
theorem getProfile_of_putProfile {E : Ed25519} {json : ProfileJson} (hjson : json.RoundTrips)
    {now : Int} {user pubkey : String} {body : PublicHubProfile} {s t : AppState}
    (h : (putProfile E json now user pubkey body).run s = (.ok .ok, t)) :
    body.verify E = .ok () ∧ (getProfile json pubkey).run t = (.ok body, t) := by
  obtain ⟨_, -, h⟩ := Prog.reads_ensure.run_bind_ok h
  obtain ⟨_, -, h⟩ := Prog.reads_ensure.run_bind_ok h
  obtain ⟨_, hverify, h⟩ := (Prog.reads_ofExcept _).run_bind_ok h
  obtain ⟨jsonStr, hwrite, h⟩ := (Prog.reads_ofExcept _).run_bind_ok h
  rw [Prog.run_ofExcept, Prod.mk.injEq, mapError_eq_ok_iff] at hverify hwrite
  rw [Prog.run_bind_of_ok (run_write _ s)] at h
  cases h
  refine ⟨hverify.1, ?_⟩
  have hstored : ∃ row, (upsertProfile pubkey jsonStr now s.db).publicHubProfiles.find? pubkey =
      some row ∧ row.profileJson = jsonStr := by
    rw [upsertProfile, Table.find?_upsert, if_pos rfl]
    cases s.db.publicHubProfiles.find? pubkey with
    | none => exact ⟨_, rfl, rfl⟩
    | some old => exact ⟨_, rfl, rfl⟩
  obtain ⟨row, hrow, hjsonStr⟩ := hstored
  rw [getProfile, Prog.run_bind_of_ok (run_fetch _ _), withDb_db, hrow]
  dsimp only
  rw [hjsonStr, hjson body jsonStr hwrite.1]
  rfl

/-! ## What the signature covers -/

/-- Every field that is stored and served, apart from the signature. -/
def SameServed (p p' : PublicHubProfile) : Prop :=
  p.pubkey = p'.pubkey ∧ p.displayName = p'.displayName ∧ p.avatar = p'.avatar ∧
    p.publicHubs = p'.publicHubs ∧ p.issuedAt = p'.issuedAt

/-- Two profiles with one signature agree on what is signed. -/
theorem sameSigned_of_verify {E : Ed25519} (honce : E.SignsOnce) {p p' : PublicHubProfile}
    (hp : (SignedRecord.publicHubProfile p).Bounded)
    (hp' : (SignedRecord.publicHubProfile p').Bounded) (hkey : p.pubkey = p'.pubkey)
    (hsignature : p.signature = p'.signature) (hverify : p.verify E = .ok ())
    (hverify' : p'.verify E = .ok ()) :
    p.pubkey = p'.pubkey ∧ p.publicHubs = p'.publicHubs ∧ p.issuedAt = p'.issuedAt := by
  unfold PublicHubProfile.verify at hverify hverify'
  rw [← hkey, ← hsignature] at hverify'
  have hbytes := honce.eq_of_checkSig hverify hverify'
  -- One kind writes one tag, so that equal bytes have equal fields.
  have hsplit (r : PublicHubProfile) :=
    SignedRecord.signingBytes_eq_map_body (fun _ => []) (.publicHubProfile r)
  have hfields := hsplit p
  have hfields' := hsplit p'
  simp only [SignedRecord.signingBytes, SignedRecord.body, Except.map, Except.ok.injEq]
    at hfields hfields'
  rw [hfields, hfields'] at hbytes
  have hbody := List.append_cancel_left hbytes
  exact @SignedRecord.sameSigned_of_body_eq (fun _ => []) _ _ _ hp hp' rfl rfl
    (congrArg Except.ok hbody.symm)

/-- **A signature fixes all of a profile but its name and its picture.** Two
profiles of one key with one signature agree on every field that is stored and
served exactly if they agree on the display name and the avatar. -/
theorem sameServed_iff {E : Ed25519} (honce : E.SignsOnce) {p p' : PublicHubProfile}
    (hp : (SignedRecord.publicHubProfile p).Bounded)
    (hp' : (SignedRecord.publicHubProfile p').Bounded) (hkey : p.pubkey = p'.pubkey)
    (hsignature : p.signature = p'.signature) (hverify : p.verify E = .ok ())
    (hverify' : p'.verify E = .ok ()) :
    SameServed p p' ↔ p.displayName = p'.displayName ∧ p.avatar = p'.avatar := by
  obtain ⟨_, hhubs, hissued⟩ :=
    sameSigned_of_verify honce hp hp' hkey hsignature hverify hverify'
  exact ⟨fun h => ⟨h.2.1, h.2.2.1⟩, fun h => ⟨hkey, h.1, h.2, hhubs, hissued⟩⟩

/-- A profile as its owner has signed it. -/
def laptopProfile : PublicHubProfile where
  pubkey := laptopKey
  displayName := "Laptop"
  avatar := none
  publicHubs := [⟨"https://a.example", "A", 5⟩]
  issuedAt := 7
  signature := "36951089fa456c162fd8be90c021635d4883d3bbd6230da7c7c92d18b58e7b40" ++
    "9df481e9bb545bff69c30f4eeca282bb431d25cd70d672e57e9445ecd67d740b"

/-- The same profile under another name and with another picture. -/
def renamedProfile : PublicHubProfile :=
  { laptopProfile with displayName := "Hub staff", avatar := some "https://b.example/badge.png" }

def profileScheme : Ed25519 :=
  .ofRecorded [⟨.replicate 32 1, laptopKey, laptopProfile.toSigningBytes, laptopProfile.signature⟩]

theorem profileScheme_signsOnce : profileScheme.SignsOnce :=
  Ed25519.signsOnce_ofRecorded _

theorem laptopProfile_bounded : (SignedRecord.publicHubProfile laptopProfile).Bounded := by
  simp only [SignedRecord.Bounded]
  decide +kernel

theorem laptopProfile_verify : laptopProfile.verify profileScheme = .ok () := by
  decide +kernel

theorem renamedProfile_bounded : (SignedRecord.publicHubProfile renamedProfile).Bounded :=
  laptopProfile_bounded

theorem renamedProfile_verify : renamedProfile.verify profileScheme = .ok () :=
  laptopProfile_verify

theorem sameServed_iff_laptopProfile :
    profileScheme.SignsOnce ∧ (SignedRecord.publicHubProfile laptopProfile).Bounded ∧
      (SignedRecord.publicHubProfile renamedProfile).Bounded ∧
      laptopProfile.pubkey = renamedProfile.pubkey ∧
      laptopProfile.signature = renamedProfile.signature ∧
      laptopProfile.verify profileScheme = .ok () ∧
      renamedProfile.verify profileScheme = .ok () ∧
      (SameServed laptopProfile renamedProfile ↔
        laptopProfile.displayName = renamedProfile.displayName ∧
          laptopProfile.avatar = renamedProfile.avatar) :=
  ⟨profileScheme_signsOnce, laptopProfile_bounded, renamedProfile_bounded, rfl, rfl,
    laptopProfile_verify, renamedProfile_verify,
    sameServed_iff profileScheme_signsOnce laptopProfile_bounded renamedProfile_bounded rfl rfl
      laptopProfile_verify renamedProfile_verify⟩

/-- Anybody can change the name and the picture of a signed profile. -/
theorem not_sameServed_renamedProfile :
    ¬ ∀ (E : Ed25519) (p p' : PublicHubProfile), E.SignsOnce →
      (SignedRecord.publicHubProfile p).Bounded → (SignedRecord.publicHubProfile p').Bounded →
      p.pubkey = p'.pubkey → p.signature = p'.signature → p.verify E = .ok () →
      p'.verify E = .ok () → SameServed p p' := by
  intro h
  have hserved := h profileScheme laptopProfile renamedProfile profileScheme_signsOnce
    laptopProfile_bounded renamedProfile_bounded rfl rfl laptopProfile_verify renamedProfile_verify
  have hname : laptopProfile.displayName ≠ renamedProfile.displayName := by decide
  exact hname hserved.2.1

end Voxply.Hub
