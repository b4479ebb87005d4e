/-
# Listings signed for the directory

An administrator has the hub sign what a public directory is to list.  The listing is written
as a document with its fields in the order of their names, the tags sorted, and the minute at
which it was signed, and the hub signs the text with the key that it uses for everything else.

The text tells every field and the minute, and the tags up to their order.  The signature is
therefore good for this listing alone, and since the text is no badge, no certification and
longer than a challenge, it is good for nothing else either, unless an alliance has the whole
text as its id.
-/

import Voxply.Hub.IsoTimestamps
import Voxply.Hub.Portability
import Voxply.Hub.SingleUse
import Voxply.Identity.Ecies
import Voxply.Math.JsonText
import Mathlib.Data.String.Basic

namespace Voxply.Hub

open Voxply.Math Voxply.Identity

/-! ## The handler -/

structure DirectorySignRequest where
  hubUrl : String
  tags : List String
  language : String
  bio : String

structure DirectorySignResponse where
  canonicalPayload : String
  hubPubkey : String
  signature : String

/-- `sort`, which compares texts byte by byte. -/
def sortTags (tags : List String) : List String :=
  tags.mergeSort fun first second => first ≤ second

def canonicalDocument (bio hubUrl language nonce : String) (tags : List String) : Document :=
  .object [("bio", .text bio), ("hub_url", .text hubUrl), ("language", .text language),
    ("nonce", .text nonce), ("tags", .array ((sortTags tags).map .text))]

def buildCanonicalPayload (bio hubUrl language nonce : String) (tags : List String) : String :=
  String.ofList (canonicalDocument bio hubUrl language nonce tags).write

/-- `current_nonce`, which has a text at all times. -/
def nonceAt (now : UInt64) : String := (currentNonce now).getD ""

def signForDirectory (lib : Crates) (now : UInt64) (user : String) (req : DirectorySignRequest) :
    Handler DirectorySignResponse := do
  let perms ← userPermissions user
  .ofExcept (perms.require admin)
  let canonicalPayload :=
    buildCanonicalPayload req.bio req.hubUrl req.language (nonceAt now) req.tags
  let identity ← .query AppState.hubIdentity
  let hubPubkey ← .query (·.publicKeyHex lib.ed25519)
  pure ⟨canonicalPayload, hubPubkey,
    hexEncode (lib.ed25519.sign identity (asBytes canonicalPayload))⟩

/-- The requests describe the same listing in the same minute. -/
structure SameListing (req req' : DirectorySignRequest) (now now' : UInt64) : Prop where
  bio : req.bio = req'.bio
  hubUrl : req.hubUrl = req'.hubUrl
  language : req.language = req'.language
  tags : req.tags.Perm req'.tags
  minute : now / 60 = now' / 60

/-! ## The tags -/

theorem sortTags_perm (tags : List String) : (sortTags tags).Perm tags :=
  List.mergeSort_perm tags _

theorem pairwise_sortTags (tags : List String) : (sortTags tags).Pairwise (· ≤ ·) := by
  have hsorted : (sortTags tags).Pairwise fun first second => decide (first ≤ second) = true :=
    @List.pairwise_mergeSort String (fun first second => first ≤ second)
      (fun a b c hab hbc =>
        decide_eq_true (le_trans (of_decide_eq_true hab) (of_decide_eq_true hbc)))
      (fun a b => by simpa using le_total a b) tags
  exact hsorted.imp fun h => of_decide_eq_true h

/-- Lists of the same tags are sorted to the same list. -/
theorem sortTags_eq_iff {tags tags' : List String} :
    sortTags tags = sortTags tags' ↔ tags.Perm tags' := by
  constructor
  · intro h
    have hperm := sortTags_perm tags
    rw [h] at hperm
    exact hperm.symm.trans (sortTags_perm tags')
  · intro h
    apply List.Perm.eq_of_pairwise _ (pairwise_sortTags tags) (pairwise_sortTags tags')
    · exact (sortTags_perm tags).trans (h.trans (sortTags_perm tags').symm)
    · exact fun a b _ _ hab hba => le_antisymm hab hba

/-! ## The minute -/

theorem padded_two_inj {n m : ℕ} {rest rest' : List Char} (hn : n < 100) (hm : m < 100)
    (h : Decimal.padded 2 n ++ rest = Decimal.padded 2 m ++ rest') : n = m ∧ rest = rest' := by
  rw [Decimal.padded_of_lt (by decide) hn, Decimal.padded_of_lt (by decide) hm] at h
  obtain ⟨hfirst, hrest⟩ := List.append_inj h (by simp)
  exact ⟨(Decimal.fixed_inj hn hm).mp hfirst, hrest⟩

/-- What the text of a minute holds after the year. -/
def DateTime.minuteSinceYear (d : DateTime) : List Char :=
  Decimal.padded 2 d.month ++ '-' :: (Decimal.padded 2 d.day ++ 'T' :: (Decimal.padded 2 d.hour ++
    ':' :: (Decimal.padded 2 d.minute ++ ['Z'])))

theorem toList_isoMinute (d : DateTime) :
    d.isoMinute.toList = Decimal.padded 4 d.year ++ '-' :: d.minuteSinceYear := by
  rw [DateTime.isoMinute, String.toList_ofList, DateTime.minutes, DateTime.minuteSinceYear]
  simp only [List.append_assoc, List.cons_append]

theorem minuteSinceYear_inj {a b : Moment}
    (h : (momentText a).minuteSinceYear = (momentText b).minuteSinceYear) :
    a.date.month = b.date.month ∧ a.date.day = b.date.day ∧ a.hour = b.hour ∧
      a.minute = b.minute := by
  have haHour := a.hour_lt
  have haMinute := a.minute_lt
  have hbHour := b.hour_lt
  have hbMinute := b.minute_lt
  obtain ⟨hmonth, h⟩ := padded_two_inj (month_lt a.date) (month_lt b.date) h
  obtain ⟨hday, h⟩ := padded_two_inj (day_lt a.date) (day_lt b.date) (List.cons.inj h).2
  obtain ⟨hhour, h⟩ := padded_two_inj (n := a.hour) (m := b.hour) (by omega) (by omega)
    (List.cons.inj h).2
  obtain ⟨hminute, -⟩ := padded_two_inj (n := a.minute) (m := b.minute) (by omega) (by omega)
    (List.cons.inj h).2
  exact ⟨hmonth, hday, hhour, hminute⟩

theorem length_minuteSinceYear (a : Moment) : (momentText a).minuteSinceYear.length = 12 := by
  have hhour := a.hour_lt
  have hminute := a.minute_lt
  simp only [DateTime.minuteSinceYear, momentText]
  rw [Decimal.padded_of_lt (by decide) (month_lt a.date),
    Decimal.padded_of_lt (by decide) (day_lt a.date),
    Decimal.padded_of_lt (by decide) (by omega), Decimal.padded_of_lt (by decide) (by omega)]
  simp

/-- The years may have any number of digits. -/
theorem year_eq_of_padded_eq {n m : ℕ} (h : Decimal.padded 4 n = Decimal.padded 4 m) : n = m := by
  have hwidth : Decimal.paddedWidth 4 n = Decimal.paddedWidth 4 m := by
    have hlength := congrArg List.length h
    rw [Decimal.padded_eq, Decimal.padded_eq, Decimal.length_fixed, Decimal.length_fixed] at hlength
    exact hlength
  have hn := Decimal.lt_pow_paddedWidth 4 n
  have hm := Decimal.lt_pow_paddedWidth 4 m
  rw [← hwidth] at hm
  rw [Decimal.padded_eq, Decimal.padded_eq] at h
  apply (Decimal.fixed_inj hn hm).mp
  show Decimal.fixed (max 4 (Decimal.width n)) n = Decimal.fixed (Decimal.paddedWidth 4 n) m
  rw [h, hwidth]
  rfl

theorem isoMinute_inj {a b : Moment} (haSecond : a.second = 0) (hbSecond : b.second = 0)
    (h : (momentText a).isoMinute = (momentText b).isoMinute) : a = b := by
  have hchars := congrArg String.toList h
  rw [toList_isoMinute, toList_isoMinute] at hchars
  have hsame : ('-' :: (momentText a).minuteSinceYear).length =
      ('-' :: (momentText b).minuteSinceYear).length := by
    rw [List.length_cons, List.length_cons, length_minuteSinceYear, length_minuteSinceYear]
  obtain ⟨hyear, hsince⟩ := List.append_inj' hchars hsame
  have hyear' : a.date.year = b.date.year := year_eq_of_padded_eq hyear
  obtain ⟨hmonth, hday, hhour, hminute⟩ := minuteSinceYear_inj (List.cons.inj hsince).2
  apply Moment.ext
  · exact Date.ext hyear' hmonth hday
  · exact hhour
  · exact hminute
  · rw [haSecond, hbSecond]

/-- The text changes with the minute. -/
theorem nonceAt_eq_iff {now now' : UInt64} : nonceAt now = nonceAt now' ↔ now / 60 = now' / 60 := by
  rw [nonceAt, nonceAt, currentNonce_eq, currentNonce_eq, Option.getD_some, Option.getD_some,
    ← UInt64.toNat_inj, UInt64.toNat_div, UInt64.toNat_div]
  show _ ↔ now.toNat / 60 = now'.toNat / 60
  constructor
  · intro h
    have hstart (n : ℕ) : (epoch.after (n / 60 * 60)).second = 0 := by
      rw [after_minute]
      rfl
    have hsame := congrArg Moment.number (isoMinute_inj (hstart now.toNat) (hstart now'.toNat) h)
    rw [Moment.number_after, Moment.number_after] at hsame
    omega
  · intro h
    rw [h]

/-! ## The listing in the signature -/

section Listing

variable {lib : Crates} {now now' : UInt64} {user user' : String}
  {req req' : DirectorySignRequest} {answer answer' : DirectorySignResponse} {s s' t t' : AppState}

def DirectorySignRequest.payload (req : DirectorySignRequest) (now : UInt64) : String :=
  buildCanonicalPayload req.bio req.hubUrl req.language (nonceAt now) req.tags

theorem payload_eq_iff : req.payload now = req'.payload now' ↔ SameListing req req' now now' := by
  rw [DirectorySignRequest.payload, DirectorySignRequest.payload, buildCanonicalPayload,
    buildCanonicalPayload, String.ofList_inj, Document.write_injective.eq_iff]
  have htexts : Function.Injective Document.text := fun _ _ h => Document.text.inj h
  simp only [canonicalDocument, Document.object.injEq, List.cons.injEq, Prod.mk.injEq, true_and,
    and_true, Document.text.injEq, Document.array.injEq, (List.map_injective_iff.mpr htexts).eq_iff,
    nonceAt_eq_iff, sortTags_eq_iff]
  constructor
  · rintro ⟨hbio, hurl, hlanguage, hminute, htags⟩
    exact ⟨hbio, hurl, hlanguage, htags, hminute⟩
  · rintro ⟨hbio, hurl, hlanguage, htags, hminute⟩
    exact ⟨hbio, hurl, hlanguage, hminute, htags⟩

/-- An administrator is given the signature of the listing, and nobody else. -/
theorem run_signForDirectory (lib : Crates) (now : UInt64) (user : String)
    (req : DirectorySignRequest) (s : AppState) :
    (signForDirectory lib now user req).run s =
      (((s.db.userPermissions user).require admin).map fun _ =>
        ⟨req.payload now, s.publicKeyHex lib.ed25519,
          hexEncode (lib.ed25519.sign s.hubIdentity (asBytes (req.payload now)))⟩, s) := by
  rw [signForDirectory, Prog.run_bind_of_ok (run_userPermissions user s), Prog.run_bind',
    Prog.run_ofExcept]
  cases (s.db.userPermissions user).require admin with
  | error e => rfl
  | ok _ => rfl

theorem eq_of_signForDirectory (h : (signForDirectory lib now user req).run s = (.ok answer, t)) :
    answer = ⟨req.payload now, s.publicKeyHex lib.ed25519,
      hexEncode (lib.ed25519.sign s.hubIdentity (asBytes (req.payload now)))⟩ := by
  rw [run_signForDirectory] at h
  cases hperms : (s.db.userPermissions user).require admin with
  | error e =>
      rw [hperms] at h
      cases h
  | ok _ =>
      rw [hperms] at h
      cases h
      rfl

/-- The directory accepts the response for the payload. -/
def DirectorySignResponse.Vouches (E : Ed25519) (answer : DirectorySignResponse)
    (canonicalPayload : String) : Prop :=
  ∃ signature, hexDecode answer.signature = some signature ∧
    verifySignature E answer.hubPubkey (asBytes canonicalPayload) signature = .ok ()

/-- **A listing signature is good for its listing.** What the hub signs for an administrator
vouches for the payload of another request exactly if that describes the same listing in the
same minute. -/
theorem vouches_iff_sameListing
    (hrun : (signForDirectory lib now user req).run s = (.ok answer, t))
    (hrun' : (signForDirectory lib now' user' req').run s' = (.ok answer', t'))
    (hbinds : lib.ed25519.Binds s.hubIdentity (asBytes answer.canonicalPayload)) :
    answer.Vouches lib.ed25519 answer'.canonicalPayload ↔ SameListing req req' now now' := by
  rw [eq_of_signForDirectory hrun, eq_of_signForDirectory hrun']
  rw [eq_of_signForDirectory hrun] at hbinds
  have hsame : asBytes (req'.payload now') = asBytes (req.payload now) ↔
      SameListing req req' now now' := by
    rw [asBytes_injective.eq_iff, eq_comm, payload_eq_iff]
  have hverify := @verifySignature_sign_iff _ _ _ (asBytes (req'.payload now')) _ hbinds
    (hexDecode_hexEncode (lib.ed25519.publicKey s.hubIdentity))
  constructor
  · rintro ⟨signature, hdecode, haccepted⟩
    cases (hexDecode_hexEncode _).symm.trans hdecode
    exact hsame.mp (hverify.mp haccepted)
  · intro h
    exact ⟨_, hexDecode_hexEncode _, hverify.mpr (hsame.mpr h)⟩

end Listing

/-- The same listing twice, with the tags in another order. -/
def gamingListing (tags : List String) : DirectorySignRequest :=
  ⟨"https://hub", tags, "en", "A hub"⟩

/-- Nine seconds after a quarter past eight. -/
def gamingClock : UInt64 := 1778444109

def listingSignature : RecordedSignature :=
  ⟨.replicate 32 5, homeHubKey, asBytes ((gamingListing ["rust", "art"]).payload gamingClock),
    "dee8ae3c40963b68a03a79cc31ef0019ac7b72cafcd3b0446a25c1090bc35b50" ++
    "a501f53be478b133a4e6d647947e843588171327830b5d585fed4a74d7476b09"⟩

def listingLib : Crates := .ofRecorded [listingSignature]

theorem listingLib_binds : listingLib.ed25519.Binds (.replicate 32 5) listingSignature.message :=
  Ed25519.binds_ofRecorded [] listingSignature [] (by decide +kernel) (by decide +kernel)
    (fun _ h => absurd h List.not_mem_nil) fun _ h => absurd h List.not_mem_nil

/-- A hub with its owner. -/
def listedHub : AppState where
  hubIdentity := .replicate 32 5
  db := { Db.migrated with
    users := .single ⟨"owner", 0, 0, .approved, none, false, 0, none, .none, none⟩
    userRoles := .single ⟨"owner", "builtin-owner", 0⟩ }

/-- What the owner is given. -/
def listedAnswer (now : UInt64) (tags : List String) : DirectorySignResponse :=
  ⟨(gamingListing tags).payload now, listedHub.publicKeyHex listingLib.ed25519,
    hexEncode (listingLib.ed25519.sign (.replicate 32 5)
      (asBytes ((gamingListing tags).payload now)))⟩

theorem run_listed (now : UInt64) (tags : List String) :
    (signForDirectory listingLib now "owner" (gamingListing tags)).run listedHub =
      (.ok (listedAnswer now tags), listedHub) := by
  have hadmin : (listedHub.db.userPermissions "owner").require admin = .ok () := by decide +kernel
  rw [run_signForDirectory, hadmin]
  rfl

/-- Half a minute later the signature still vouches for the listing, after a minute no more. -/
theorem listed_vouches :
    (listedAnswer gamingClock ["rust", "art"]).Vouches listingLib.ed25519
        (listedAnswer (gamingClock + 30) ["art", "rust"]).canonicalPayload ∧
      ¬ (listedAnswer gamingClock ["rust", "art"]).Vouches listingLib.ed25519
        (listedAnswer (gamingClock + 60) ["art", "rust"]).canonicalPayload := by
  have hvouches (now : UInt64) (tags : List String) :=
    vouches_iff_sameListing (run_listed gamingClock ["rust", "art"]) (run_listed now tags)
      listingLib_binds
  rw [hvouches, hvouches]
  refine ⟨⟨rfl, rfl, rfl, List.Perm.swap _ _ _, by decide⟩, ?_⟩
  intro h
  exact absurd h.minute (by decide)

/-! ## What else it is good for -/

/-- A reader of records refuses an object that lacks a field. -/
def RefusesMissing {A : Type} (read : String → Option A) (name : String) : Prop :=
  ∀ members : List (String × Document), (∀ member ∈ members, member.1 ≠ name) →
    read (String.ofList (Document.object members).write) = none

/-- A record is written with the field first. -/
def WritesFirst {A : Type} (write : A → Option String) (name : String) : Prop :=
  ∀ value text, write value = some text →
    ∃ rest, text.toList = '{' :: (JsonText.quote name ++ rest)

/-- Nobody takes the signature of the hub at `home` for the one of a badge, a certification or a
login, and it is an invite only to an alliance whose id is the payload. -/
structure ListingOnly {ι : Type} (lib : Crates) (hubs : ι → AppState) (home : ι)
    (canonicalPayload : String) (signature : List UInt8) : Prop where
  badge : ∀ i, ¬ AcceptedAsBadge lib (hubs i) (lib.ed25519.publicKey (hubs home).hubIdentity)
    signature
  certification : ∀ i, ¬ AcceptedAsCertification lib (hubs i)
    (lib.ed25519.publicKey (hubs home).hubIdentity) signature
  login : ∀ i, ¬ AcceptedAsLogin lib (hubs i)
    (lib.ed25519.publicKey (hubs home).hubIdentity) signature
  invite : AcceptedAsInvite lib (hubs home) signature ↔
    ∃ alliance ∈ (hubs home).db.alliances.rows, alliance.id = canonicalPayload

section Elsewhere

variable {lib : Crates} {now : UInt64} {user : String} {req : DirectorySignRequest}
  {answer : DirectorySignResponse} {s t : AppState}

theorem toList_payload (req : DirectorySignRequest) (now : UInt64) :
    ∃ rest, (req.payload now).toList = '{' :: (JsonText.quote "bio" ++ rest) ∧
      32 < rest.length := by
  rw [DirectorySignRequest.payload, buildCanonicalPayload, String.toList_ofList, canonicalDocument,
    Document.write]
  refine ⟨_, rfl, ?_⟩
  have hurl : (JsonText.quote "hub_url").length = 9 := rfl
  have hlanguage : (JsonText.quote "language").length = 10 := rfl
  have hnonce : (JsonText.quote "nonce").length = 7 := rfl
  have htags : (JsonText.quote "tags").length = 6 := rfl
  simp only [Document.writeMembers, List.length_cons, List.length_append, hurl, hlanguage, hnonce,
    htags]
  omega

theorem length_le_asBytes (text : String) : text.toList.length ≤ (asBytes text).length := by
  rw [← String.ofList_toList (s := text), asBytes_ofList, String.toList_ofList]
  induction text.toList with
  | nil => exact le_refl 0
  | cons c chars ih =>
      have hc := c.utf8Size_pos
      rw [List.flatMap_cons, List.length_append, String.length_utf8EncodeChar, List.length_cons]
      omega

/-- The payload is no challenge. -/
theorem length_asBytes_payload (req : DirectorySignRequest) (now : UInt64) :
    32 < (asBytes (req.payload now)).length := by
  obtain ⟨rest, hchars, hlength⟩ := toList_payload req now
  have hbytes := length_le_asBytes (req.payload now)
  rw [hchars, List.length_cons, List.length_append] at hbytes
  omega

theorem not_readsAsBadge (hbadge : RefusesMissing lib.readBadgePayload "issuer_pubkey")
    (key : List UInt8) : ¬ ReadsAsBadge lib s key (asBytes (req.payload now)) := by
  rintro ⟨text, payload, htext, hread, -⟩
  rw [asBytes_injective htext, DirectorySignRequest.payload, buildCanonicalPayload,
    canonicalDocument, hbadge _ (by simp)] at hread
  cases hread

theorem not_readsAsCertification (hcert : WritesFirst lib.certPayloadJson "subject_kind")
    (key : List UInt8) : ¬ ReadsAsCertification lib s key (asBytes (req.payload now)) := by
  rintro ⟨payload, json, hjson, hmessage, -⟩
  obtain ⟨rest, hchars, -⟩ := toList_payload req now
  obtain ⟨rest', hchars'⟩ := hcert payload json hjson
  rw [asBytes_injective hmessage, hchars] at hchars'
  have hname := (JsonText.quote_inj (List.cons.inj hchars').2).1
  exact absurd hname (by decide)

/-! ## Challenges of random bytes -/

/-- A statement of any other request.  Nothing but logins touches the pending challenges. -/
structure OtherStatement where
  act : AppState → AppState
  pendingChallenges : ∀ s, (act s).pendingChallenges = s.pendingChallenges

/-- What a hub does. A challenge is an array of 32 random bytes. -/
inductive NetworkRequest where
  | challenge (challengeBytes : Bytes 32) (instant : ℕ) (publicKey : String)
  | verify (env : LoginEnv) (req : VerifyRequest)
  | renew (env : LoginEnv) (user : String) (req : VerifyRequest)
  | apart (statement : OtherStatement)

def NetworkRequest.handler (lib : Crates) : NetworkRequest → Handler Unit
  | .challenge challengeBytes instant publicKey => do
      let _ ← Hub.challenge challengeBytes.val instant publicKey
      pure ()
  | .verify env req => do
      let _ ← Hub.verify lib env req
      pure ()
  | .renew env user req => do
      let _ ← Hub.renew lib env user req
      pure ()
  | .apart statement => .exec statement.act

/-- Hubs that have started without pending challenges, and what each has done since. -/
structure HubNetwork (ι : Type) where
  start : ι → AppState
  quiet : ∀ i key, (start i).pendingChallenges key = none
  moves : ι → List (Move NetworkRequest)

def HubNetwork.hub {ι : Type} (network : HubNetwork ι) (lib : Crates) (i : ι) : AppState :=
  (serve (NetworkRequest.handler lib) (network.moves i) (network.start i)).state

/-- Every pending challenge has 32 bytes. -/
def AppState.Drawn (s : AppState) : Prop :=
  ∀ key pending, s.pendingChallenges key = some pending → pending.challengeBytes.length = 32

theorem AppState.Drawn.of_eq {s t : AppState} (h : s.Drawn)
    (hpending : t.pendingChallenges = s.pendingChallenges) : t.Drawn := by
  intro key pending hfound
  rw [hpending] at hfound
  exact h key pending hfound

theorem AppState.Drawn.setChallenge {s : AppState} (h : s.Drawn) (publicKey : String)
    {found : Option PendingChallenge}
    (hfound : ∀ pending ∈ found, pending.challengeBytes.length = 32) :
    (s.setChallenge publicKey found).Drawn := by
  intro key pending hpending
  by_cases hkey : key = publicKey
  · exact hfound pending ((if_pos hkey).symm.trans hpending)
  · exact h key pending ((if_neg hkey).symm.trans hpending)

/-- A statement leaves challenges of 32 bytes. -/
def KeepsDrawn (_ : List (Sent AppState)) (sent : Sent AppState) : Prop :=
  sent.before.Drawn → sent.after.Drawn

/-- A login only takes challenges away. -/
theorem LoginSent.keepsDrawn {env : LoginEnv} {req : VerifyRequest} {past : List (Sent AppState)}
    {sent : Sent AppState} (h : LoginSent lib env req past sent) : KeepsDrawn past sent := by
  intro hdrawn
  cases h with
  | take _ htake =>
      rw [Sent.after, htake]
      exact hdrawn.setChallenge req.publicKey (by simp)
  | session canonical _ hsession =>
      rw [Sent.after, hsession]
      rcases executed_insertSession_cases ⟨env.token, canonical, env.now⟩ sent.before with
        hsame | ⟨-, -, hpending, -⟩
      · rwa [hsame]
      · exact hdrawn.of_eq hpending
  | other _ hother => exact hdrawn.of_eq hother.aside.pendingChallenges

theorem NetworkRequest.handler_follows (lib : Crates) (request : NetworkRequest) :
    (request.handler lib).Follows KeepsDrawn (fun _ _ => True) [] := by
  cases request with
  | challenge challengeBytes instant publicKey =>
      refine fun s => ⟨fun hdrawn => ?_, trivial⟩
      apply hdrawn.setChallenge publicKey
      rintro pending ⟨⟩
      exact challengeBytes.property
  | verify env req =>
      apply (verify_follows.mono (fun _ _ _ h => h.keepsDrawn) fun _ _ _ h => h).bind
      exact fun _ _ _ _ => trivial
  | renew env user req =>
      apply ((renew_follows user).mono (fun _ _ _ h => h.keepsDrawn) fun _ _ _ h => h).bind
      exact fun _ _ _ _ => trivial
  | apart statement =>
      exact fun s => ⟨fun hdrawn => hdrawn.of_eq (statement.pendingChallenges s), trivial⟩

/-- Whatever a hub has done, its pending challenges have 32 bytes. -/
theorem HubNetwork.drawn {ι : Type} (network : HubNetwork ι) (lib : Crates) (i : ι) :
    (network.hub lib i).Drawn := by
  have hrun := (Server.sound_serve (NetworkRequest.handler_follows lib) (network.moves i)
    (network.start i)).run
  apply hrun.kept_after AppState.Drawn .idle
  · intro mid e post hsplit hbefore
    exact (hrun.split hsplit).2.1 hbefore
  · intro key pending hpending
    rw [network.quiet] at hpending
    cases hpending

/-- **A listing signature is good for nothing else.** -/
theorem listingOnly_of_signForDirectory {ι : Type} {network : HubNetwork ι} {home : ι}
    (hrun : (signForDirectory lib now user req).run (network.hub lib home) = (.ok answer, t))
    (hbinds : lib.ed25519.Binds (network.hub lib home).hubIdentity
      (asBytes answer.canonicalPayload))
    (hbadge : RefusesMissing lib.readBadgePayload "issuer_pubkey")
    (hcert : WritesFirst lib.certPayloadJson "subject_kind") :
    ∃ signature, hexDecode answer.signature = some signature ∧
      ListingOnly lib (network.hub lib) home answer.canonicalPayload signature := by
  rw [eq_of_signForDirectory hrun] at hbinds ⊢
  refine ⟨_, hexDecode_hexEncode _, ?_, ?_, ?_, ?_⟩
  · intro i haccepted
    exact not_readsAsBadge hbadge _ ((acceptedAsBadge_iff hbinds).mp haccepted)
  · intro i haccepted
    exact not_readsAsCertification hcert _ ((acceptedAsCertification_iff hbinds).mp haccepted)
  · intro i haccepted
    obtain ⟨publicKey, pending, -, hpending, hmessage, -⟩ :=
      (acceptedAsLogin_iff hbinds).mp haccepted
    have hlength := network.drawn lib i publicKey pending hpending
    rw [hmessage] at hlength
    exact absurd hlength (length_asBytes_payload req now).ne'
  · rw [acceptedAsInvite_iff hbinds]
    simp only [asBytes_injective.eq_iff]

end Elsewhere

/-- A badge of the home hub for its peer. -/
def homeBadge : BadgePayload :=
  ⟨homeHubKey, "https://a.example", peerHubKey, "Friend", "2026-05-10T20:15:09Z",
    some "2026-06-10T20:15:09Z"⟩

/-- The fields of a badge that expires. -/
def badgeMembers (payload : BadgePayload) : List (String × Document) :=
  [("issuer_pubkey", .text payload.issuerPubkey), ("issuer_url", .text payload.issuerUrl),
    ("subject_pubkey", .text payload.subjectPubkey), ("label", .text payload.label),
    ("issued_at", .text payload.issuedAt), ("expires_at", .text (payload.expiresAt.getD ""))]

def homeBadgeText : String := String.ofList (Document.object (badgeMembers homeBadge)).write

def homeBadgeSignature : RecordedSignature :=
  ⟨.replicate 32 5, homeHubKey, asBytes homeBadgeText,
    "ab2c7f0727bcc5a9d256ec3d367bb8b7239a2e286b502bd070ba106a54a4c437" ++
    "88f600fadbeebfd9d51893a09a60fe8d487f2d11f9ab0b1d73836f3554a13b00"⟩

/-- The peer has answered a challenge too. -/
def peerSignature : RecordedSignature :=
  ⟨.replicate 32 6, peerHubKey, challengeSignature.message,
    "cb0fb852483672004f0821a71237b8e520f5d6a4940defd8e512438e785bbee7" ++
    "1f7a66a4d89c82b397c30dd9f03d1ee6b64f6160ecf43d27a243602f9cefdf07"⟩

def readHomeBadge (text : String) : Option BadgePayload :=
  if text = homeBadgeText then some homeBadge else none

theorem readHomeBadge_refusesMissing : RefusesMissing readHomeBadge "issuer_pubkey" := by
  intro members hmissing
  have htext : String.ofList (Document.object members).write ≠ homeBadgeText := by
    intro htext
    have hmembers := Document.object.inj (Document.write_injective (String.ofList_inj.mp htext))
    rw [hmembers] at hmissing
    exact hmissing ("issuer_pubkey", .text homeHubKey) List.mem_cons_self rfl
  rw [readHomeBadge, if_neg htext]

theorem certPayloadText_writesFirst :
    WritesFirst (fun payload => some (certPayloadText payload)) "subject_kind" := by
  intro payload text htext
  rw [← Option.some.inj htext]
  have hhead : "\x7b\"subject_kind\":\"" =
      String.ofList ('{' :: JsonText.quote "subject_kind") ++ ":\"" := by
    decide +kernel
  unfold certPayloadText
  rw [hhead]
  simp only [String.append_assoc, String.toList_append, String.toList_ofList, List.cons_append]
  exact ⟨_, rfl⟩

/-- The home hub has signed a listing, and one message of every other kind. -/
def directoryLib : Crates :=
  { Crates.ofRecorded [listingSignature, allianceSignature, homeBadgeSignature,
      certificationSignature, challengeSignature, peerSignature] with
    readBadgePayload := readHomeBadge
    certPayloadJson := fun payload => some (certPayloadText payload)
    readCertRequire := fun text => if text = "\x7b\x7d" then some {} else none }

theorem directoryLib_readBadgePayload : directoryLib.readBadgePayload = readHomeBadge := by
  simp only [directoryLib]

/-- Two hubs of an alliance.  The peer has sent the home hub a challenge. -/
def directoryNetwork : HubNetwork Bool where
  start
    | true =>
        { listedHub with
          db := { listedHub.db with
            alliances := .single ⟨homeAlliance, "home", "owner", 1⟩
            hubSettings := listedHub.db.hubSettings.replace ⟨"cert_mode", "any"⟩ } }
    | false => { db := .migrated, hubIdentity := .replicate 32 6 }
  quiet
    | true, _ => rfl
    | false, _ => rfl
  moves
    | true => []
    | false => [.start (.challenge ⟨challengeSignature.message, rfl⟩ 0 homeHubKey), .exec 0]

/-- What the other messages begin with is no listing. -/
theorem listing_ne_message {message : List UInt8} (h : message.take 3 ≠ [0x7b, 0x22, 0x62]) :
    listingSignature.message ≠ message := by
  intro heq
  obtain ⟨rest, hchars, -⟩ := toList_payload (gamingListing ["rust", "art"]) gamingClock
  apply h
  have hbytes : listingSignature.message =
      asBytes (String.ofList ('{' :: (JsonText.quote "bio" ++ rest))) := by
    rw [← hchars, String.ofList_toList]
    rfl
  rw [← heq, hbytes, asBytes_ofList]
  rfl

/-- No two of the signatures are of the same message and key. -/
theorem directoryLib_binds {x : RecordedSignature} (hx : x ∈ [listingSignature, allianceSignature,
      homeBadgeSignature, certificationSignature, challengeSignature, peerSignature]) :
    directoryLib.ed25519.Binds x.seed x.message := by
  refine Ed25519.binds_ofRecorded_mem (by decide +kernel) ?_ (by decide +kernel) hx
  have hothers : ∀ y ∈ [allianceSignature, homeBadgeSignature, certificationSignature,
      challengeSignature, peerSignature], listingSignature.seed = y.seed →
        listingSignature.publicKeyHex = y.publicKeyHex ∧
          y.message.take 3 ≠ [0x7b, 0x22, 0x62] := by
    decide +kernel
  refine List.pairwise_cons.mpr ⟨fun y hy hseed => ?_, by decide +kernel⟩
  exact (hothers y hy hseed).imp_right listing_ne_message

/-- The hubs accept what the home hub has signed as a badge, as a certification and as a login,
and none of that is the listing. -/
theorem listingOnly_listed :
    (∃ answer signature, ((signForDirectory directoryLib gamingClock "owner"
        (gamingListing ["rust", "art"])).run (directoryNetwork.hub directoryLib true)).1 =
          .ok answer ∧
      hexDecode answer.signature = some signature ∧
      ListingOnly directoryLib (directoryNetwork.hub directoryLib) true answer.canonicalPayload
        signature) ∧
      (∃ signature, AcceptedAsBadge directoryLib (directoryNetwork.hub directoryLib false)
        (directoryLib.ed25519.publicKey (.replicate 32 5)) signature) ∧
      (∃ signature, AcceptedAsCertification directoryLib (directoryNetwork.hub directoryLib true)
        (directoryLib.ed25519.publicKey (.replicate 32 5)) signature) ∧
      ∃ signature, AcceptedAsLogin directoryLib (directoryNetwork.hub directoryLib false)
        (directoryLib.ed25519.publicKey (.replicate 32 5)) signature := by
  have hbadge := directoryLib_binds (x := homeBadgeSignature) (by simp)
  have hcert := directoryLib_binds (x := certificationSignature) (by simp)
  have hchallenge := directoryLib_binds (x := challengeSignature) (by simp)
  refine ⟨?_, ⟨_, (acceptedAsBadge_iff hbadge).mpr ?_⟩,
    ⟨_, (acceptedAsCertification_iff hcert).mpr ?_⟩,
    ⟨_, (acceptedAsLogin_iff hchallenge).mpr ?_⟩⟩
  · have hadmin : ((directoryNetwork.hub directoryLib true).db.userPermissions "owner").require
        admin = .ok () := by
      decide +kernel
    have hrun := run_signForDirectory directoryLib gamingClock "owner"
      (gamingListing ["rust", "art"]) (directoryNetwork.hub directoryLib true)
    rw [hadmin, Except.map] at hrun
    have hmessage : listingSignature.message =
        asBytes ((gamingListing ["rust", "art"]).payload gamingClock) := by
      rw [listingSignature]
    have hbinds : directoryLib.ed25519.Binds (directoryNetwork.hub directoryLib true).hubIdentity
        (asBytes ((gamingListing ["rust", "art"]).payload gamingClock)) := by
      rw [← hmessage]
      exact directoryLib_binds List.mem_cons_self
    have hbadge : RefusesMissing directoryLib.readBadgePayload "issuer_pubkey" := by
      rw [directoryLib_readBadgePayload]
      exact readHomeBadge_refusesMissing
    obtain ⟨signature, hdecode, hright⟩ := listingOnly_of_signForDirectory hrun hbinds hbadge
      certPayloadText_writesFirst
    exact ⟨_, signature, congrArg Prod.fst hrun, hdecode, hright⟩
  · have hmessage : homeBadgeSignature.message = asBytes homeBadgeText := by
      rw [homeBadgeSignature]
    have hread : directoryLib.readBadgePayload homeBadgeText = some homeBadge := by
      rw [directoryLib_readBadgePayload, readHomeBadge, if_pos rfl]
    exact ⟨homeBadgeText, homeBadge, hmessage.symm, hread, by decide +kernel, by decide +kernel⟩
  · refine ⟨laptopCertification, _, rfl, rfl, by decide +kernel, ?_⟩
    unfold Db.Honours
    decide +kernel
  · refine ⟨homeHubKey, ⟨challengeSignature.message, 60⟩, by decide +kernel, rfl, rfl,
      .fixed 10 1, .ofRecorded challengeSignature, rfl, by decide +kernel, by decide +kernel, ?_,
      0, by decide +kernel⟩
    rintro ⟨⟩

end Voxply.Hub
