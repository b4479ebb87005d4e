/-
# Getting into the directory

A farm gets into the directory by a registration, for which the directory asks the farm for its
public info, and it stays there as long as the revalidation gets the public info of a farm that
allows to be listed.  Both read the number of hubs and the limit in the same way.  But the
registration also asks the document for the key of the farm, and there is none in the document
that farms make.
-/

import Voxply.Seed.Farms
import Voxply.Farm.PublicInfo
import Voxply.Farm.SessionRevocation

namespace Voxply.Seed

open Voxply.Math
open Voxply.Farm (HttpAnswer PublicInfoResponse trimSlashes)
open Voxply.Hub (trim)

/-! ## Documents as they are read -/

/-- What the directory decodes of a public info. -/
structure FarmPublicInfo where
  kind : Option String
  publicKey : Option String
  allowDiscoveryListing : Option Bool
  hubCount : Option Int64
  maxHubsTotal : Option Int64
  deriving DecidableEq

def FarmPublicInfo.ofMembers (members : Members) : Option FarmPublicInfo :=
  if Json.keysValid members then do
    let kind ← Json.optional members "kind" Json.asText
    let publicKey ← Json.optional members "public_key" Json.asText
    let allowDiscoveryListing ← Json.optional members "allow_discovery_listing" Json.asBool
    let hubCount ← Json.optional members "hub_count" Json.asInt64
    let maxHubsTotal ← Json.optional members "max_hubs_total" Json.asInt64
    pure ⟨kind, publicKey, allowDiscoveryListing, hubCount, maxHubsTotal⟩
  else none

/-- The derived reader. -/
def FarmPublicInfo.ofJson : Json → Option FarmPublicInfo
  | .object members => ofMembers members
  | .array [kind, publicKey, allowDiscoveryListing, hubCount, maxHubsTotal] => do
      let kind ← kind.nullable Json.asText
      let publicKey ← publicKey.nullable Json.asText
      let allowDiscoveryListing ← allowDiscoveryListing.nullable Json.asBool
      let hubCount ← hubCount.nullable Json.asInt64
      let maxHubsTotal ← maxHubsTotal.nullable Json.asInt64
      pure ⟨kind, publicKey, allowDiscoveryListing, hubCount, maxHubsTotal⟩
  | _ => none

mutual

/-- All texts and keys are valid, so that the document can be read as a value. -/
def readable : Json → Bool
  | .string text => text.isSome
  | .array items => allReadable items
  | .object members => membersReadable members
  | _ => true

def allReadable : List Json → Bool
  | [] => true
  | item :: rest => readable item && allReadable rest

def membersReadable : List (Option String × Json) → Bool
  | [] => true
  | (key, value) :: rest => key.isSome && readable value && membersReadable rest

end

/-- `info.get(name)`: of members with the same name the last one counts. -/
def member (name : String) : Json → Option Json
  | .object members => (Json.valuesOf members name).getLast?
  | _ => none

/-! ## Registration -/

/-- What ends a request early. -/
inductive Refusal where
  | panicked
  | badRequest (code : String)
  deriving DecidableEq

/-- What is answered at a URL at some time, if anything is. -/
abbrev Web := String → Option HttpAnswer

def publicInfoUrl (farmUrl : String) : String :=
  trimSlashes farmUrl ++ "/farm/public-info"

/-- `fetch_public_info`. -/
def fetchPublicInfo (web : Web) (farmUrl : String) : Except Refusal FarmPublicInfo := do
  let response ← (web (publicInfoUrl farmUrl)).elim (.error (.badRequest "farm_not_reachable")) .ok
  if response.success = false then .error (.badRequest "farm_not_accepting_listing")
  else do
    let info ← (response.body.bind FarmPublicInfo.ofJson).elim
      (.error (.badRequest "farm_invalid_public_info")) .ok
    if info.allowDiscoveryListing.getD false = false then
      .error (.badRequest "farm_not_accepting_listing")
    else .ok info

structure RegisterRequest where
  farmUrl : String
  farmPubkey : String
  name : String
  description : Option String := none
  country : Option String := none
  region : Option String := none
  languages : Option (List String) := none
  tags : Option (List String) := none
  deriving DecidableEq

structure RegisterResponse where
  registered : Bool
  lastVerifiedAt : Int64
  deriving DecidableEq

/-- `INSERT INTO registered_farms … ON CONFLICT(farm_url) DO UPDATE`. -/
def upsertFarm (row : FarmRow) (db : SeedDb) : SeedDb where
  registeredFarms := db.registeredFarms.upsert row
    (fun old => { old with
      farmPubkey := row.farmPubkey
      name := row.name
      description := row.description
      country := row.country
      region := row.region
      languages := row.languages
      tags := row.tags
      hubCount := row.hubCount
      maxHubsTotal := row.maxHubsTotal
      capacityPct := row.capacityPct
      geoUnverified := row.geoUnverified
      lastVerifiedAt := row.lastVerifiedAt })
    fun _ => rfl

/-- The row of a registration. `write` writes lists of texts. -/
def RegisterRequest.row (write : List String → String) (now : Int64) (req : RegisterRequest)
    (info : FarmPublicInfo) (capacityPct : Option Int64) : FarmRow where
  farmUrl := req.farmUrl
  farmPubkey := req.farmPubkey
  name := trim req.name
  description := req.description
  country := req.country
  region := req.region
  languages := (req.languages.map write).getD "[\"en\"]"
  tags := (req.tags.map write).getD "[]"
  hubCount := info.hubCount.getD 0
  maxHubsTotal := info.maxHubsTotal
  capacityPct := capacityPct
  geoUnverified := 0
  lastVerifiedAt := now
  registeredAt := now

/-- `register`. -/
def register (web : Web) (write : List String → String) (now : Int64) (req : RegisterRequest) :
    Prog SeedDb Refusal RegisterResponse := do
  .ensure (req.farmUrl ≠ "") (.badRequest "missing_farm_url")
  .ensure (req.farmPubkey.utf8ByteSize = 64) (.badRequest "invalid_farm_pubkey")
  .ensure (trim req.name ≠ "") (.badRequest "missing_name")
  let info ← .ofExcept (fetchPublicInfo web req.farmUrl)
  match info.publicKey with
  | none => .fail (.badRequest "farm_missing_public_key")
  | some remotePk => do
      .ensure (remotePk = req.farmPubkey) (.badRequest "pubkey_mismatch")
      let capacityPct ← .ofExcept ((registeredCapacity info.hubCount info.maxHubsTotal).elim
        (.error .panicked) .ok)
      .exec (upsertFarm (req.row write now info capacityPct))
      pure ⟨true, now⟩

/-! ## Revalidation -/

/-- Whether the first answer keeps a farm in the directory. -/
def keepsListed (web : Web) (farmUrl : String) : Bool :=
  match web (publicInfoUrl farmUrl) with
  | none => false
  | some response =>
      response.success && (response.body.filter readable).any fun info =>
        ((member "allow_discovery_listing" info).bind Json.asBool).getD false

/-- `DELETE FROM registered_farms WHERE farm_url = ?`. -/
def deleteFarm (farmUrl : String) (db : SeedDb) : SeedDb where
  registeredFarms := db.registeredFarms.keep fun row => row.farmUrl ≠ farmUrl

/-- `UPDATE registered_farms SET hub_count = ?, … WHERE farm_url = ?`. -/
def refreshFarm (farmUrl : String) (hubCount : Int64) (maxHubsTotal capacityPct : Option Int64)
    (now : Int64) (db : SeedDb) : SeedDb where
  registeredFarms := db.registeredFarms.update (fun row => row.farmUrl = farmUrl)
    (fun old => { old with
      hubCount := hubCount
      maxHubsTotal := maxHubsTotal
      capacityPct := capacityPct
      lastVerifiedAt := now })
    fun _ => rfl

/-- One turn of the loop, with what is answered the first and the second time; whether the farm
was removed. -/
def revalidate (web again : Web) (now : Int64) (farmUrl : String) : Prog SeedDb Refusal Bool := do
  if keepsListed web farmUrl = false then do
    .exec (deleteFarm farmUrl)
    pure true
  else
    match ((again (publicInfoUrl farmUrl)).bind (·.body)).filter readable with
    | none => pure false
    | some info => do
        let hubCount := (member "hub_count" info).bind Json.asInt64
        let maxHubsTotal := (member "max_hubs_total" info).bind Json.asInt64
        let capacityPct ← .ofExcept ((revalidatedCapacity hubCount maxHubsTotal).elim
          (.error .panicked) .ok)
        .exec (refreshFarm farmUrl (hubCount.getD 0) (maxHubsTotal.filter fun v => v > 0)
          capacityPct now)
        pure false

/-- How many of the farms were removed. -/
def revalidateAll (web again : Web) (now : Int64) : List String → Prog SeedDb Refusal ℕ
  | [] => pure 0
  | farmUrl :: rest => do
      let removed ← revalidate web again now farmUrl
      let more ← revalidateAll web again now rest
      pure (removed.toNat + more)

/-- `tick`: how many farms were checked, and how many removed. -/
def tick (web again : Web) (now : Int64) : Prog SeedDb Refusal (ℕ × ℕ) := do
  let rows ← .query fun db =>
    (db.registeredFarms.rows.map (·.farmUrl)).insertionSort fun first second => first ≤ second
  let removed ← revalidateAll web again now rows
  pure (rows.length, removed)

/-! ## What is to hold -/

/-- A registration names a farm that allows to be listed, by a URL under which it answers, with a
name and with the farm's key. -/
structure NamesFarm (web : Web) (json : Farm.SettingsJson) (farm : Farm.FarmConfig)
    (s : Farm.FarmState) (policy : Farm.FarmRow) (req : RegisterRequest) : Prop where
  stored : s.db.farms = some policy
  listing : policy.allowDiscoveryListing ≠ 0
  reachable : web (publicInfoUrl req.farmUrl) =
    some (Farm.publicInfoAnswer ((Farm.publicInfo json).run s).1)
  url : req.farmUrl ≠ ""
  named : trim req.name ≠ ""
  key : req.farmPubkey = farm.publicKeyHex
  length : req.farmPubkey.utf8ByteSize = 64

/-- The farm is taken into the directory with its number of hubs and its share, and a revalidation
by which the farm has not changed leaves both. -/
def TakesIn (web : Web) (write : List String → String) (now later : Int64) (s : Farm.FarmState)
    (policy : Farm.FarmRow) (req : RegisterRequest) (db : SeedDb) : Prop :=
  ∃ t row, (register web write now req).run db = (.ok ⟨true, now⟩, t) ∧
    t.registeredFarms.find? req.farmUrl = some row ∧
    row.hubCount = Int64.ofNat s.db.totalHubs ∧
    registeredCapacity (some row.hubCount) (some policy.maxHubsTotal) = some row.capacityPct ∧
    ∃ counts u row', (tick web web later).run t = (.ok counts, u) ∧
      u.registeredFarms.find? req.farmUrl = some row' ∧ row'.hubCount = row.hubCount ∧
      row'.capacityPct = row.capacityPct

/-! ## What is read off a farm's document -/

section Reading

variable (info : PublicInfoResponse)

/-- A registration reads everything but the key. -/
theorem ofJson_members : FarmPublicInfo.ofJson (.object info.members) =
    some ⟨some info.kind, none, some info.allowDiscoveryListing, some info.hubCount,
      some info.maxHubsTotal⟩ := by
  simp [FarmPublicInfo.ofJson, FarmPublicInfo.ofMembers, Farm.keysValid_members, Json.optional,
    Farm.valuesOf_kind, Farm.valuesOf_publicKey, Farm.valuesOf_allowDiscoveryListing,
    Farm.valuesOf_hubCount, Farm.valuesOf_maxHubsTotal, Json.nullable, Json.asBool]

theorem membersReadable_append (first rest : Members) :
    membersReadable (first ++ rest) = (membersReadable first && membersReadable rest) := by
  induction first with
  | nil => rfl
  | cons pair first ih =>
      obtain ⟨key, value⟩ := pair
      rw [List.cons_append, membersReadable, membersReadable, ih, Bool.and_assoc, Bool.and_assoc,
        Bool.and_assoc]

theorem membersReadable_textMember (name : String) (text : Option String) :
    membersReadable (Farm.textMember name text) = true := by
  cases text with
  | none => rfl
  | some text => rfl

/-- A document is readable if the two documents in it are. -/
theorem readable_members (hlanguages : readable info.languages = true)
    (htags : readable info.tags = true) : readable (.object info.members) = true := by
  simp [readable, PublicInfoResponse.members, membersReadable_append, membersReadable_textMember,
    membersReadable, hlanguages, htags]

end Reading

section Farm

variable {web : Web} {json : Farm.SettingsJson} {farm : Farm.FarmConfig} {s : Farm.FarmState}
  {policy : Farm.FarmRow} {req : RegisterRequest}

/-- What the farm answers. -/
theorem NamesFarm.answers (h : NamesFarm web json farm s policy req) :
    ∃ info : PublicInfoResponse, (Farm.publicInfo json).run s = (.ok info, s) ∧
      web (publicInfoUrl req.farmUrl) = some ⟨true, some (.object info.members)⟩ ∧
      info.allowDiscoveryListing = true ∧ info.hubCount = Int64.ofNat s.db.totalHubs ∧
      info.maxHubsTotal = policy.maxHubsTotal ∧
      info.languages = json.languages policy.languages ∧ info.tags = json.tags policy.tags := by
  obtain ⟨info, hrun, hfields⟩ := Farm.run_publicInfo json h.stored h.listing
  have hreachable := h.reachable
  rw [hrun] at hreachable
  exact ⟨info, hrun, hreachable, hfields⟩

/-- The directory gets the document, in which there is no key. -/
theorem fetchPublicInfo_eq (h : NamesFarm web json farm s policy req) :
    ∃ kind, fetchPublicInfo web req.farmUrl = .ok ⟨kind, none, some true,
      some (Int64.ofNat s.db.totalHubs), some policy.maxHubsTotal⟩ := by
  obtain ⟨info, -, hanswer, hlisting, hcount, hmax, -⟩ := h.answers
  refine ⟨some info.kind, ?_⟩
  rw [fetchPublicInfo, hanswer]
  simp only [Option.elim_some, Except.bind, bind, Option.bind_some, ofJson_members,
    hlisting, hcount, hmax, Option.getD_some]
  rfl

/-- So the registration is refused for the missing key. -/
theorem run_register (h : NamesFarm web json farm s policy req) (write : List String → String)
    (now : Int64) (db : SeedDb) :
    (register web write now req).run db =
      (.error (.badRequest "farm_missing_public_key"), db) := by
  obtain ⟨kind, hfetch⟩ := fetchPublicInfo_eq h
  rw [register, Prog.run_bind_of_ok (Prog.run_ensure_of_pos h.url _ db),
    Prog.run_bind_of_ok (Prog.run_ensure_of_pos h.length _ db),
    Prog.run_bind_of_ok (Prog.run_ensure_of_pos h.named _ db), hfetch,
    Prog.run_bind_of_ok (Prog.run_ofExcept _ db)]
  rfl

theorem not_takesIn_of_names (h : NamesFarm web json farm s policy req)
    (write : List String → String) (now later : Int64) (db : SeedDb) :
    ¬ TakesIn web write now later s policy req db := by
  intro ⟨t, row, hrun, _⟩
  rw [run_register h] at hrun
  cases hrun

/-- The directory takes in no farm. -/
theorem not_takesIn (web : Web) (json : Farm.SettingsJson) (farm : Farm.FarmConfig)
    (s : Farm.FarmState) (policy : Farm.FarmRow) (req : RegisterRequest)
    (h : NamesFarm web json farm s policy req) (write : List String → String) (now later : Int64)
    (db : SeedDb) : ¬ TakesIn web write now later s policy req db :=
  not_takesIn_of_names h write now later db

/-- The revalidation reads the same numbers, and would keep the farm, with the share that the
registration computes. -/
theorem run_revalidate (h : NamesFarm web json farm s policy req)
    (hread : ∀ text value, json.read text = some value → readable value = true)
    {capacityPct : Option Int64}
    (hcapacity : registeredCapacity (some (Int64.ofNat s.db.totalHubs)) (some policy.maxHubsTotal) =
      some capacityPct) (now : Int64) (db : SeedDb) :
    (revalidate web web now req.farmUrl).run db =
      (.ok false, refreshFarm req.farmUrl (Int64.ofNat s.db.totalHubs)
        ((some policy.maxHubsTotal).filter fun v => v > 0) capacityPct now db) := by
  obtain ⟨info, -, hanswer, hlisting, hcount, hmax, hlanguages, htags⟩ := h.answers
  have hreadable : readable (.object info.members) = true := by
    apply readable_members
    · rw [hlanguages, Farm.SettingsJson.languages]
      cases hvalue : json.read policy.languages with
      | none => rfl
      | some value => exact hread _ _ hvalue
    · rw [htags, Farm.SettingsJson.tags]
      cases hvalue : json.read policy.tags with
      | none => rfl
      | some value => exact hread _ _ hvalue
  have hkeeps : keepsListed web req.farmUrl = true := by
    simp [keepsListed, hanswer, hreadable, member, Farm.valuesOf_allowDiscoveryListing, hlisting,
      Json.asBool]
  rw [same_capacity] at hcapacity
  rw [revalidate, if_neg (by rw [hkeeps]; exact Bool.noConfusion), hanswer]
  simp only [Option.bind_some, Option.filter_some, hreadable, if_true, member,
    Farm.valuesOf_hubCount,
    Farm.valuesOf_maxHubsTotal, List.getLast?_singleton, Json.asInt64_int, hcount, hmax, hcapacity,
    Option.elim_some, Option.getD_some]
  rfl

end Farm

/-! ## A farm that asks to be listed -/

def listedPolicy : Farm.FarmRow :=
  { Farm.adminFarmRow with allowDiscoveryListing := 1, maxHubsTotal := 10 }

def listedFarm : Farm.FarmState :=
  { db := { farms := some listedPolicy }, clock := 1000 }

/-- The texts of the farm, as far as they are read. -/
def farmTexts : Farm.SettingsJson where
  write _ := "[]"
  read text :=
    if text = "[]" then some (.array [])
    else if text = "[\"en\"]" then some (.array [.string (some "en")])
    else none

/-- The farm is all that can be reached. -/
def farmWeb : Web := fun url =>
  if url = publicInfoUrl "https://farm.test" then
    some (Farm.publicInfoAnswer ((Farm.publicInfo farmTexts).run listedFarm).1)
  else none

def listingRequest : RegisterRequest where
  farmUrl := "https://farm.test"
  farmPubkey := Farm.sampleFarm.publicKeyHex
  name := "My Farm"

theorem namesFarm_listed :
    NamesFarm farmWeb farmTexts Farm.sampleFarm listedFarm listedPolicy listingRequest where
  stored := rfl
  listing := by decide
  reachable := if_pos rfl
  url := by decide
  named := by decide +kernel
  key := rfl
  length := by decide +kernel

theorem not_takesIn_listed :
    ¬ TakesIn farmWeb farmTexts.write 2000 3000 listedFarm listedPolicy listingRequest {} :=
  not_takesIn farmWeb farmTexts Farm.sampleFarm listedFarm listedPolicy listingRequest
    namesFarm_listed farmTexts.write 2000 3000 {}

/-- The farm names itself as it should, and is refused. -/
theorem listedFarm_refused :
    NamesFarm farmWeb farmTexts Farm.sampleFarm listedFarm listedPolicy listingRequest ∧
      ((register farmWeb farmTexts.write 2000 listingRequest).run {}).1 =
        .error (.badRequest "farm_missing_public_key") ∧
      ¬ TakesIn farmWeb farmTexts.write 2000 3000 listedFarm listedPolicy listingRequest {} := by
  refine ⟨namesFarm_listed, ?_, not_takesIn_of_names namesFarm_listed farmTexts.write 2000 3000 {}⟩
  rw [run_register namesFarm_listed]

end Voxply.Seed
