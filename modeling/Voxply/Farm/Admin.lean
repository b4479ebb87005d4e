/-
# Settings, quotas and users of a farm

The admin sets the policy for creating hubs; every user can ask how many more hubs may be
created.  The admin lists the users page by page, with how many hubs and live sessions
each of them has.  A farm that allows it describes itself to whoever asks.
-/

import Voxply.Farm.Hubs
import Voxply.Math.Join
import Voxply.Math.Json

namespace Voxply.Farm

open Voxply.Math Voxply.Identity
open Voxply.Hub (SqlError StatusCode)

/-- Writing lists of texts as JSON, and reading JSON. -/
structure SettingsJson where
  write : List String → String
  read : String → Option Json

/-- `fetch_farm_row`. -/
def fetchFarmRow : Handler FarmRow := do
  let row ← fetch (·.farms)
  match row with
  | none => .fail (jsonError .internalServerError "farm_row_missing")
  | some row => pure row

/-! ## Settings -/

structure PatchSettingsRequest where
  name : Option String := none
  description : Option String := none
  directoryPublic : Option Bool := none
  creationPolicy : Option String := none
  maxHubsPerUser : Option Int64 := none
  maxHubsTotal : Option Int64 := none
  allowDiscoveryListing : Option Bool := none
  languages : Option (List String) := none
  tags : Option (List String) := none
  country : Option String := none
  region : Option String := none
  deriving DecidableEq

structure FarmSettingsResponse where
  name : String
  description : Option String
  directoryPublic : Bool
  creationPolicy : String
  maxHubsPerUser : Int64
  maxHubsTotal : Int64
  allowDiscoveryListing : Bool
  languages : Json
  tags : Json
  country : Option String
  region : Option String
  adminPubkey : Option String

def validateCreationPolicy (v : String) : Bool :=
  v = "open" || v = "admin_only" || v = "disabled"

/-- Two lower-case letters. -/
def validateLanguage (code : String) : Bool :=
  code.utf8ByteSize = 2 && code.toList.all fun c => 'a' ≤ c && c ≤ 'z'

def validTags : List String :=
  ["gaming", "professional", "creative", "education", "community", "18plus"]

def detailedError (error details : String) : ApiError :=
  ⟨.badRequest, .json error (some details)⟩

def validateTags (tags : List String) : Except ApiError Unit :=
  if tags.length > 3 then .error (detailedError "invalid_tag" "max 3 tags")
  else
    match tags.find? (· ∉ validTags) with
    | some tag => .error (detailedError "invalid_tag" ("unknown tag: " ++ tag))
    | none => .ok ()

def validateLanguages (langs : List String) : Except ApiError Unit :=
  if langs.isEmpty || langs.length > 5 then
    .error (detailedError "invalid_value" "languages must be 1-5 items")
  else
    match langs.find? fun lang => !validateLanguage lang with
    | some lang => .error (detailedError "invalid_value" ("invalid BCP-47 code: " ++ lang))
    | none => .ok ()

/-- What is checked before the store is touched. The limits are not. -/
def validateSettings (req : PatchSettingsRequest) : Except ApiError Unit := do
  if req.creationPolicy.all validateCreationPolicy then pure ()
  else .error (detailedError "invalid_value"
    "creation_policy must be open, admin_only, or disabled")
  req.tags.elim (.ok ()) validateTags
  req.languages.elim (.ok ()) validateLanguages

def boolColumn (b : Bool) : Int :=
  if b then 1 else 0

/-- The columns after the request, with what it does not name as it was. -/
def PatchSettingsRequest.apply (json : SettingsJson) (req : PatchSettingsRequest) (row : FarmRow) :
    FarmRow where
  name := req.name.getD row.name
  description := req.description.or row.description
  directoryPublic := (req.directoryPublic.map boolColumn).getD row.directoryPublic
  creationPolicy := req.creationPolicy.getD row.creationPolicy
  maxHubsPerUser := req.maxHubsPerUser.getD row.maxHubsPerUser
  maxHubsTotal := req.maxHubsTotal.getD row.maxHubsTotal
  allowDiscoveryListing := (req.allowDiscoveryListing.map boolColumn).getD row.allowDiscoveryListing
  languages := (req.languages.map json.write).getD row.languages
  tags := (req.tags.map json.write).getD row.tags
  country := req.country.or row.country
  region := req.region.or row.region
  adminPubkey := row.adminPubkey

/-- `UPDATE farms SET … WHERE id = 1`: the admin is not among the columns. -/
def updateFarm (new : FarmRow) (db : Db) : Db :=
  { db with farms := db.farms.map fun old => { new with adminPubkey := old.adminPubkey } }

def SettingsJson.languages (json : SettingsJson) (text : String) : Json :=
  (json.read text).getD (.array [.string (some "en")])

def SettingsJson.tags (json : SettingsJson) (text : String) : Json :=
  (json.read text).getD (.array [])

def patchSettings (farm : FarmConfig) (json : SettingsJson) (bearer : Bearer)
    (req : PatchSettingsRequest) : Handler FarmSettingsResponse := do
  let _ ← requireAdmin farm bearer
  .ofExcept (validateSettings req)
  let row ← fetchFarmRow
  let new := req.apply json row
  write (updateFarm new)
  pure
    { name := new.name
      description := new.description
      directoryPublic := new.directoryPublic ≠ 0
      creationPolicy := new.creationPolicy
      maxHubsPerUser := new.maxHubsPerUser
      maxHubsTotal := new.maxHubsTotal
      allowDiscoveryListing := new.allowDiscoveryListing ≠ 0
      languages := json.languages new.languages
      tags := json.tags new.tags
      country := new.country
      region := new.region
      adminPubkey := row.adminPubkey }

/-! ## Quotas -/

structure HubQuotaResponse where
  creationPolicy : String
  hubsOwned : Int64
  maxHubsPerUser : Int64
  quotaRemaining : Option Int64
  farmHubsTotal : Int64
  maxHubsTotal : Int64
  farmQuotaRemaining : Option Int64
  deriving DecidableEq

/-- How much of a limit is reported to be left: 0 stands for no limit. -/
def quotaRemaining (limit count : Int64) : Option Int64 :=
  if limit = 0 then none else some (max (limit - count) 0)

def meHubQuota (farm : FarmConfig) (bearer : Bearer) : Handler HubQuotaResponse := do
  let payload ← requireAuth farm bearer
  let row ← fetchFarmRow
  let owned ← fetch (·.ownedHubs payload.sub)
  let total ← fetch (·.totalHubs)
  let hubsOwned := Int64.ofNat owned
  let farmHubsTotal := Int64.ofNat total
  pure
    { creationPolicy := row.creationPolicy
      hubsOwned := hubsOwned
      maxHubsPerUser := row.maxHubsPerUser
      quotaRemaining := quotaRemaining row.maxHubsPerUser hubsOwned
      farmHubsTotal := farmHubsTotal
      maxHubsTotal := row.maxHubsTotal
      farmQuotaRemaining := quotaRemaining row.maxHubsTotal farmHubsTotal }

/-! ## Users -/

structure ListUsersQuery where
  limit : Option Int64
  cursor : Option String
  deriving DecidableEq

structure UserEntry where
  publicKey : String
  firstSeenAt : Int
  lastSeenAt : Int
  hubsOwned : ℕ
  activeSessions : ℕ
  deriving DecidableEq

structure ListUsersResponse where
  users : List UserEntry
  total : ℕ
  deriving DecidableEq

/-- A row of the two joins. -/
abbrev JoinedRow := (FarmUserRow × Option HubRow) × Option FarmSessionRow

def JoinedRow.key (row : JoinedRow) : String :=
  row.1.1.publicKey

/-- `farm_users u LEFT JOIN hubs h ON … LEFT JOIN farm_sessions s ON …`. -/
def Db.joinedUsers (db : Db) (now : Int) : List JoinedRow :=
  leftJoin
    (leftJoin db.farmUsers.rows db.hubs.rows fun u h => h.ownerPubkey = u.publicKey && h.isKept)
    db.farmSessions.rows fun row s => s.publicKey = row.1.publicKey && s.isActive now

/-- The columns that are selected for a group. -/
def userEntry (group : List JoinedRow) : Option UserEntry :=
  group.head?.map fun first =>
    { publicKey := first.1.1.publicKey
      firstSeenAt := first.1.1.firstSeenAt
      lastSeenAt := first.1.1.lastSeenAt
      hubsOwned := countDistinct (group.map fun row => row.1.2.map (·.id))
      activeSessions := countDistinct (group.map fun row => row.2.map (·.jti)) }

/-- `WHERE u.public_key > ? GROUP BY u.public_key ORDER BY u.public_key LIMIT ?`, without
the condition if there is no cursor. -/
def Db.userEntries (db : Db) (now : Int) (cursor : Option String) (limit : ℕ) : List UserEntry :=
  ((groups JoinedRow.key ((db.joinedUsers now).filter fun row => cursor.all (· < row.key))).take
    limit).filterMap userEntry

/-- `limit.unwrap_or(50).min(200).max(1)`. -/
def pageSize (limit : Option Int64) : ℕ :=
  (max (min ((limit.map Int64.toInt).getD 50) 200) 1).toNat

def listUsers (farm : FarmConfig) (bearer : Bearer) (query : ListUsersQuery) :
    Handler ListUsersResponse := do
  let _ ← requireAdmin farm bearer
  let now ← unixNow
  let total ← fetch (·.farmUsers.rows.length)
  let users ← fetch (·.userEntries now query.cursor (pageSize query.limit))
  pure ⟨users, total⟩

/-! ## Public description -/

structure PublicInfoResponse where
  kind : String
  name : String
  description : Option String
  creationPolicy : String
  hubCount : Int64
  maxHubsTotal : Int64
  allowDiscoveryListing : Bool
  country : Option String
  region : Option String
  languages : Json
  tags : Json

def publicInfo (json : SettingsJson) : Handler PublicInfoResponse := do
  let row ← fetchFarmRow
  .ensure (row.allowDiscoveryListing ≠ 0) (jsonError .notFound "discovery_disabled")
  let hubCount ← fetch (·.totalHubs)
  pure
    { kind := "voxply-farm-public"
      name := row.name
      description := row.description
      creationPolicy := row.creationPolicy
      hubCount := Int64.ofNat hubCount
      maxHubsTotal := row.maxHubsTotal
      allowDiscoveryListing := row.allowDiscoveryListing ≠ 0
      country := row.country
      region := row.region
      languages := json.languages row.languages
      tags := json.tags row.tags }

end Voxply.Farm
