/-
# The directory

`GET /farms` lists the farms, the last verified ones first.  Country, region and language are
compared by the database, in a statement of its own for every combination of them; the tags are
compared afterwards.  Whichever statement runs, what is listed are the farms that match all that
is asked for.
-/

import Voxply.Seed.Farms
import Voxply.Math.Json
import Mathlib.Data.List.Sort

namespace Voxply.Seed

open Voxply.Math

/-! ## The handler -/

/-- How stored texts are read: as a document, and as the values that `json_each` yields. -/
structure SeedJson where
  read : String → Option Json
  each : String → List Json

structure FarmsQuery where
  country : Option String := none
  region : Option String := none
  language : Option String := none

structure FarmEntry where
  farmUrl : String
  farmPubkey : String
  name : String
  description : Option String
  hubCount : Int64
  capacityPct : Option Int64
  country : Option String
  region : Option String
  languages : Json
  tags : Json
  geoUnverified : Bool
  lastVerifiedAt : Int64
  stale : Option Bool

structure FarmsResponse where
  farms : List FarmEntry
  generatedAt : Int64

section Handler

variable (json : SeedJson)

/-- `EXISTS (SELECT 1 FROM json_each(f.languages) WHERE json_each.value = ?)`. -/
def FarmRow.speaks (language : String) (row : FarmRow) : Bool :=
  (json.each row.languages).any fun value => value.asText = some language

/-- `SELECT … WHERE … ORDER BY f.last_verified_at DESC`. -/
def SeedDb.select (db : SeedDb) (keep : FarmRow → Bool) : List FarmRow :=
  (db.registeredFarms.rows.filter keep).insertionSort
    fun first second => second.lastVerifiedAt ≤ first.lastVerifiedAt

/-- The statement for what is given of country, region and language. -/
def SeedDb.farmRows (db : SeedDb) (query : FarmsQuery) : List FarmRow :=
  match query.country with
  | some country =>
      match query.language with
      | some language =>
          match query.region with
          | some region =>
              db.select fun f => f.country = some country && f.region = some region &&
                f.speaks json language
          | none => db.select fun f => f.country = some country && f.speaks json language
      | none =>
          match query.region with
          | some region => db.select fun f => f.country = some country && f.region = some region
          | none => db.select fun f => f.country = some country
  | none =>
      match query.language with
      | some language =>
          match query.region with
          | some region => db.select fun f => f.region = some region && f.speaks json language
          | none => db.select fun f => f.speaks json language
      | none =>
          match query.region with
          | some region => db.select fun f => f.region = some region
          | none => db.select fun _ => true

/-- The texts of an array; what is not a text is passed over. -/
def textsOf : Json → List String
  | .array items => items.filterMap Json.asText
  | _ => []

def FarmRow.entry (now : Int64) (row : FarmRow) : FarmEntry where
  farmUrl := row.farmUrl
  farmPubkey := row.farmPubkey
  name := row.name
  description := row.description
  hubCount := row.hubCount
  capacityPct := row.capacityPct.filter fun _ => row.maxHubsTotal.any (· > 0)
  country := row.country
  region := row.region
  languages := (json.read row.languages).getD (.array [.string (some "en")])
  tags := (json.read row.tags).getD (.array [])
  geoUnverified := row.geoUnverified ≠ 0
  lastVerifiedAt := row.lastVerifiedAt
  stale := if row.lastVerifiedAt < now - 86400 then some true else none

/-- The filter for the tags, which have to be there one and all. -/
def FarmRow.taggedEntry (requiredTags : List String) (now : Int64) (row : FarmRow) :
    Option FarmEntry :=
  if requiredTags.all fun tag => tag ∈ textsOf ((json.read row.tags).getD (.array [])) then
    some (row.entry json now)
  else none

def listFarms (query : FarmsQuery) (requiredTags : List String) (now : Int64) (db : SeedDb) :
    FarmsResponse :=
  ⟨(db.farmRows json query).filterMap (·.taggedEntry json requiredTags now), now⟩

end Handler

/-! ## What is to hold -/

section Spec

variable {json : SeedJson} {query : FarmsQuery} {requiredTags : List String} {now : Int64}
  {db : SeedDb}

/-- The texts of the array that is stored as a text. -/
def SeedJson.stored (json : SeedJson) (text : String) : List String :=
  textsOf ((json.read text).getD (.array []))

/-- The farm is in the country and the region, and has the language and every tag. -/
structure Matches (json : SeedJson) (query : FarmsQuery) (requiredTags : List String)
    (row : FarmRow) : Prop where
  country : ∀ country ∈ query.country, row.country = some country
  region : ∀ region ∈ query.region, row.region = some region
  language : ∀ language ∈ query.language, language ∈ json.stored row.languages
  tags : ∀ tag ∈ requiredTags, tag ∈ json.stored row.tags

/-- The farms that match are listed, each once and as it is stored, the last verified ones
first. -/
structure Lists (json : SeedJson) (query : FarmsQuery) (requiredTags : List String) (now : Int64)
    (db : SeedDb) (farms : List FarmEntry) : Prop where
  mem_iff : ∀ url, url ∈ farms.map (·.farmUrl) ↔
    ∃ row ∈ db.registeredFarms.rows, row.farmUrl = url ∧ Matches json query requiredTags row
  once : (farms.map (·.farmUrl)).Nodup
  stored : ∀ entry ∈ farms, ∃ row ∈ db.registeredFarms.rows, entry = row.entry json now
  sorted : farms.Pairwise fun first second => second.lastVerifiedAt ≤ first.lastVerifiedAt

/-- The languages of every farm are an array, and `json_each` yields its items. -/
def Enumerates (json : SeedJson) (db : SeedDb) : Prop :=
  ∀ row ∈ db.registeredFarms.rows, ∃ items,
    json.read row.languages = some (.array items) ∧ json.each row.languages = items

/-! ## One conjunction for all statements -/

/-- The conjunction that the statements have in common. -/
def FarmRow.found (json : SeedJson) (query : FarmsQuery) (row : FarmRow) : Bool :=
  query.country.all (fun country => row.country = some country) &&
    query.region.all (fun region => row.region = some region) &&
    query.language.all (row.speaks json)

/-- Every statement selects by the conjunction. -/
theorem farmRows_eq (json : SeedJson) (query : FarmsQuery) (db : SeedDb) :
    db.farmRows json query = db.select (·.found json query) := by
  obtain ⟨country, region, language⟩ := query
  cases country <;> cases region <;> cases language <;>
    simp [SeedDb.farmRows, FarmRow.found, Bool.and_assoc]

theorem speaks_iff {row : FarmRow} {language : String} {items : List Json}
    (hread : json.read row.languages = some (.array items))
    (heach : json.each row.languages = items) :
    row.speaks json language = true ↔ language ∈ json.stored row.languages := by
  rw [FarmRow.speaks, heach, SeedJson.stored, hread, List.any_eq_true]
  show _ ↔ language ∈ items.filterMap Json.asText
  rw [List.mem_filterMap]
  simp

/-- What the statement and the filter leave are the farms that match. -/
theorem found_iff {row : FarmRow} (h : Enumerates json db) (hrow : row ∈ db.registeredFarms.rows) :
    row.found json query = true ∧ (∀ tag ∈ requiredTags, tag ∈ json.stored row.tags) ↔
      Matches json query requiredTags row := by
  obtain ⟨items, hread, heach⟩ := h row hrow
  have hspeaks : query.language.all (row.speaks json) = true ↔
      ∀ language ∈ query.language, language ∈ json.stored row.languages := by
    rw [Option.all_eq_true]
    exact forall₂_congr fun language _ => speaks_iff hread heach
  constructor
  · intro ⟨hfound, htags⟩
    rw [FarmRow.found, Bool.and_eq_true, Bool.and_eq_true, Option.all_eq_true,
      Option.all_eq_true, hspeaks] at hfound
    exact {
      country := fun country hc => of_decide_eq_true (hfound.1.1 country hc)
      region := fun region hr => of_decide_eq_true (hfound.1.2 region hr)
      language := hfound.2
      tags := htags }
  · intro hmatches
    rw [FarmRow.found, Bool.and_eq_true, Bool.and_eq_true, Option.all_eq_true,
      Option.all_eq_true, hspeaks]
    exact ⟨⟨⟨fun country hc => decide_eq_true (hmatches.country country hc),
      fun region hr => decide_eq_true (hmatches.region region hr)⟩, hmatches.language⟩,
      hmatches.tags⟩

/-- Later verified farms come first. -/
def VerifiedLater (first second : FarmRow) : Prop := second.lastVerifiedAt ≤ first.lastVerifiedAt

instance : DecidableRel VerifiedLater := fun first second =>
  inferInstanceAs (Decidable (second.lastVerifiedAt ≤ first.lastVerifiedAt))

instance : Std.Total VerifiedLater where
  total _ _ := by
    rw [VerifiedLater, VerifiedLater, Int64.le_iff_toInt_le, Int64.le_iff_toInt_le]
    exact le_total _ _

instance : IsTrans FarmRow VerifiedLater where
  trans _ _ _ hab hbc := by
    rw [VerifiedLater, Int64.le_iff_toInt_le] at *
    exact hbc.trans hab

theorem mem_select {keep : FarmRow → Bool} {row : FarmRow} :
    row ∈ db.select keep ↔ row ∈ db.registeredFarms.rows ∧ keep row = true := by
  rw [SeedDb.select, List.mem_insertionSort, List.mem_filter]

theorem nodup_select (keep : FarmRow → Bool) :
    ((db.select keep).map (·.farmUrl)).Nodup := by
  have hperm : (db.select keep).Perm (db.registeredFarms.rows.filter keep) :=
    List.perm_insertionSort _ _
  exact (hperm.map _).nodup_iff.mpr
    (db.registeredFarms.nodup.sublist (List.filter_sublist.map _))

theorem pairwise_select (keep : FarmRow → Bool) : (db.select keep).Pairwise VerifiedLater :=
  List.pairwise_insertionSort VerifiedLater _

/-- The rows that are listed, in their order. -/
def listed (json : SeedJson) (query : FarmsQuery) (requiredTags : List String) (db : SeedDb) :
    List FarmRow :=
  (db.select (·.found json query)).filter fun row =>
    requiredTags.all fun tag => tag ∈ json.stored row.tags

theorem farms_listFarms (json : SeedJson) (query : FarmsQuery) (requiredTags : List String)
    (now : Int64) (db : SeedDb) :
    (listFarms json query requiredTags now db).farms =
      (listed json query requiredTags db).map (·.entry json now) := by
  rw [listFarms, farmRows_eq, listed, ← List.filterMap_eq_map, List.filterMap_filter]
  rfl

theorem mem_listed_iff {row : FarmRow} (h : Enumerates json db) :
    row ∈ listed json query requiredTags db ↔
      row ∈ db.registeredFarms.rows ∧ Matches json query requiredTags row := by
  rw [listed, List.mem_filter, mem_select, List.all_eq_true, and_assoc]
  refine and_congr_right fun hrow => ?_
  rw [← found_iff h hrow]
  simp only [decide_eq_true_eq]

/-- The directory lists the farms that match. -/
theorem lists_listFarms (h : Enumerates json db) (query : FarmsQuery) (requiredTags : List String)
    (now : Int64) :
    Lists json query requiredTags now db (listFarms json query requiredTags now db).farms := by
  rw [farms_listFarms]
  constructor
  · intro url
    rw [List.map_map, List.mem_map]
    constructor
    · intro ⟨row, hrow, hurl⟩
      exact ⟨row, ((mem_listed_iff h).mp hrow).1, hurl, ((mem_listed_iff h).mp hrow).2⟩
    · intro ⟨row, hrow, hurl, hmatches⟩
      exact ⟨row, (mem_listed_iff h).mpr ⟨hrow, hmatches⟩, hurl⟩
  · rw [List.map_map]
    exact (nodup_select _).sublist (List.filter_sublist.map _)
  · intro entry hentry
    obtain ⟨row, hrow, rfl⟩ := List.mem_map.mp hentry
    exact ⟨row, ((mem_listed_iff h).mp hrow).1, rfl⟩
  · rw [List.pairwise_map]
    exact (pairwise_select _).sublist List.filter_sublist

end Spec

/-! ## A small directory -/

def bilingual : List Json := [.string (some "de"), .string (some "en")]

/-- Two texts and the arrays that they are. -/
def pairJson : SeedJson where
  read text := if text = "[\"de\",\"en\"]" then some (.array bilingual)
    else if text = "[\"gaming\"]" then some (.array [.string (some "gaming")]) else none
  each text := if text = "[\"de\",\"en\"]" then bilingual
    else if text = "[\"gaming\"]" then [.string (some "gaming")] else []

def farmOf (url : String) (lastVerifiedAt : Int64) : FarmRow where
  farmUrl := url
  farmPubkey := "key"
  name := url
  description := none
  country := some "DE"
  region := none
  languages := "[\"de\",\"en\"]"
  tags := "[\"gaming\"]"
  hubCount := 1
  maxHubsTotal := some 4
  capacityPct := some 25
  geoUnverified := 0
  lastVerifiedAt := lastVerifiedAt
  registeredAt := 10

/-- Two farms alike, one of another country and one with other tags. -/
def pairDb : SeedDb where
  registeredFarms :=
    ⟨[farmOf "https://a" 10, { farmOf "https://c" 30 with country := some "FR" },
      { farmOf "https://d" 40 with tags := "[]" }, farmOf "https://b" 20], by decide⟩

theorem lists_listFarms_pairDb :
    Lists pairJson { country := some "DE", language := some "en" } ["gaming"] 30 pairDb
      (listFarms pairJson { country := some "DE", language := some "en" } ["gaming"] 30
        pairDb).farms := by
  refine lists_listFarms (fun row hrow => ⟨bilingual, ?_⟩) _ _ _
  have hlanguages : ∀ row ∈ pairDb.registeredFarms.rows,
      row.languages = "[\"de\",\"en\"]" := by
    decide
  rw [hlanguages row hrow]
  exact ⟨rfl, rfl⟩

example : ((listFarms pairJson { country := some "DE", language := some "en" } ["gaming"] 30
    pairDb).farms.map (·.farmUrl)) = ["https://b", "https://a"] := by
  decide

end Voxply.Seed
