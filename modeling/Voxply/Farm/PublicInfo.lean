/-
# What a farm tells about itself

`GET /farm/public-info` is what a directory asks a farm for.  It is answered only by a farm that
allows to be listed, and the document has the policy of the farm, the number of its hubs and the
limit, but not the key of the farm.
-/

import Voxply.Farm.Admin

namespace Voxply.Farm

open Voxply.Math
open Voxply.Hub (StatusCode)

/-! ## The document -/

/-- A member that is left out if there is no value. -/
def textMember (name : String) (text : Option String) : Members :=
  text.toList.map fun text => (some name, .string (some text))

/-- The document of a response, in the order of its fields. -/
def PublicInfoResponse.members (info : PublicInfoResponse) : Members :=
  [(some "kind", .string (some info.kind)), (some "name", .string (some info.name))] ++
  textMember "description" info.description ++
  [(some "creation_policy", .string (some info.creationPolicy)),
    (some "hub_count", .int info.hubCount.toInt),
    (some "max_hubs_total", .int info.maxHubsTotal.toInt),
    (some "allow_discovery_listing", .bool info.allowDiscoveryListing)] ++
  textMember "country" info.country ++
  textMember "region" info.region ++
  [(some "languages", info.languages), (some "tags", info.tags)]

/-! ## Over HTTP -/

/-- What a client gets: whether the status is one of success, and the document if the body is
one. -/
structure HttpAnswer where
  success : Bool
  body : Option Json

def ErrorBody.document : ErrorBody → Option Json
  | .text _ => none
  | .json error details => some (.object
      ((some "error", .string (some error)) :: textMember "details" details))

/-- The answer to a request for the public info. -/
def publicInfoAnswer : Except ApiError PublicInfoResponse → HttpAnswer
  | .ok info => ⟨true, some (.object info.members)⟩
  | .error e => ⟨false, e.body.document⟩

/-- A farm that allows to be listed answers with its numbers. -/
theorem run_publicInfo (json : SettingsJson) {s : FarmState} {policy : FarmRow}
    (hpolicy : s.db.farms = some policy) (hlisting : policy.allowDiscoveryListing ≠ 0) :
    ∃ info, (publicInfo json).run s = (.ok info, s) ∧ info.allowDiscoveryListing = true ∧
      info.hubCount = Int64.ofNat s.db.totalHubs ∧ info.maxHubsTotal = policy.maxHubsTotal ∧
      info.languages = json.languages policy.languages ∧ info.tags = json.tags policy.tags := by
  have hrow : fetchFarmRow.run s = (.ok policy, s) := by
    rw [fetchFarmRow, fetch, Prog.run_bind_of_ok (Prog.run_query _ s), hpolicy]
    rfl
  rw [publicInfo, Prog.run_bind_of_ok hrow,
    Prog.run_bind_of_ok (Prog.run_ensure_of_pos hlisting _ s), fetch,
    Prog.run_bind_of_ok (Prog.run_query _ s)]
  exact ⟨_, rfl, decide_eq_true hlisting, rfl, rfl, rfl, rfl⟩

/-! ## The members -/

section Members

variable (info : PublicInfoResponse)

/-- A member under another name. -/
theorem valuesOf_textMember_of_ne {name other : String} (h : other ≠ name) (text : Option String) :
    Json.valuesOf (textMember other text) name = [] := by
  cases text with
  | none => rfl
  | some text => simp [textMember, Json.valuesOf, h]

/-- There is no key in the document. -/
theorem valuesOf_publicKey : Json.valuesOf info.members "public_key" = [] := by
  simp [PublicInfoResponse.members, Json.valuesOf_append, Json.valuesOf_cons, Json.valuesOf_nil,
    valuesOf_textMember_of_ne]

theorem valuesOf_kind : Json.valuesOf info.members "kind" = [.string (some info.kind)] := by
  simp [PublicInfoResponse.members, Json.valuesOf_append, Json.valuesOf_cons, Json.valuesOf_nil,
    valuesOf_textMember_of_ne]

theorem valuesOf_allowDiscoveryListing : Json.valuesOf info.members "allow_discovery_listing" =
    [.bool info.allowDiscoveryListing] := by
  simp [PublicInfoResponse.members, Json.valuesOf_append, Json.valuesOf_cons, Json.valuesOf_nil,
    valuesOf_textMember_of_ne]

theorem valuesOf_hubCount :
    Json.valuesOf info.members "hub_count" = [.int info.hubCount.toInt] := by
  simp [PublicInfoResponse.members, Json.valuesOf_append, Json.valuesOf_cons, Json.valuesOf_nil,
    valuesOf_textMember_of_ne]

theorem valuesOf_maxHubsTotal :
    Json.valuesOf info.members "max_hubs_total" = [.int info.maxHubsTotal.toInt] := by
  simp [PublicInfoResponse.members, Json.valuesOf_append, Json.valuesOf_cons, Json.valuesOf_nil,
    valuesOf_textMember_of_ne]

theorem keysValid_members : Json.keysValid info.members = true := by
  simp [PublicInfoResponse.members, Json.keysValid, textMember]

end Members

end Voxply.Farm
