/-
# Messages routed through an alliance

A message for a channel that the hub does not share itself is handed to the first member
whose listing mentions the channel, and so is the request to read its messages.  A member
lists what its own members share as well, so the one that mentions the channel need not share
it: whether it does can only be relied on where every member from which a chain leads to the
channel shares it.
-/

import Voxply.Hub.AllianceListing

namespace Voxply.Hub

open Voxply.Math Voxply.Identity

namespace AllianceNetwork

section Delivery

variable (bot : BotWorld) (env : SendMessageEnv) (user allianceId channelId : String)
  (req : SendMessageRequest)

/-- The message of the user has been taken by the hub at the URL, which is to say that it has
answered with one; how the handler there comes to its answer is left open. -/
def Delivered (world : ListingWorld) (s : AppState) (url : String) : Prop :=
  (postAllianceChannelMessage bot world.toAllianceWorld env user allianceId channelId req).Succeeds
      s ∧
    ∃ token content message, world.toAllianceWorld.owner s allianceId channelId =
      some (url, token) ∧ (world.peer url).postMessage token channelId content = .json message

/-- The message comes to a hub that shares the channel, whatever the others answer. -/
def DeliversRight {H : Type} (W : AllianceNetwork H) (net : H → AppState) (hub : H) : Prop :=
  ∀ world s url, W.Hears net allianceId hub world s →
    Delivered bot env user allianceId channelId req world s url →
      W.OwnerAt net allianceId channelId url

end Delivery

variable {H : Type} {W : AllianceNetwork H} {net : H → AppState} {bot : BotWorld}
  {env : SendMessageEnv} {user allianceId channelId : String} {req : SendMessageRequest} {hub : H}
  {world : ListingWorld} {s : AppState}

/-- Who is taken for the owner is a member that mentions the channel. -/
theorem owns_eq_some {member : AllianceMemberRow} {url token : String}
    (h : world.toAllianceWorld.owns s allianceId channelId member = some (url, token)) :
    member.hubUrl = url ∧ world.toAllianceWorld.token s member = some token ∧
      ∃ shared, world.listing url token allianceId = .json shared ∧ Mentions channelId shared := by
  obtain ⟨token', htoken, h⟩ := Option.bind_eq_some_iff.mp h
  rw [world.sharedChannels_eq] at h
  cases hlisting : world.listing member.hubUrl token' allianceId with
  | unreachable =>
      rw [hlisting] at h
      cases h
  | invalid =>
      rw [hlisting] at h
      cases h
  | json shared =>
      rw [hlisting] at h
      simp only [Reply.map] at h
      split_ifs at h with hmentions
      cases h
      exact ⟨rfl, htoken, shared, hlisting, List.mem_map.mp hmentions⟩

/-- A message goes to a member from which a chain leads to the channel. -/
theorem Hears.leads_of_owner (h : W.Hears net allianceId hub world s) {url token : String}
    (howner : world.toAllianceWorld.owner s allianceId channelId = some (url, token)) :
    ∃ row ∈ W.others net allianceId hub, row.hubUrl = url ∧
      W.Leads net allianceId channelId url := by
  rw [AllianceWorld.owner, h.toServes.publicKeyHex, h.db] at howner
  obtain ⟨row, hrow, howns⟩ := List.exists_of_findSome?_eq_some howner
  obtain ⟨hurl, -, shared, hlisting, hmentions⟩ := owns_eq_some howns
  exact ⟨row, hrow, hurl, leads_of_mentions (h.heard url token) hlisting hmentions⟩

/-- Whoever is found first, if all that can be found is the same. -/
theorem findSome?_eq_some_of_forall {A B : Type} {f : A → Option B} {l : List A} {a : A} {b : B}
    (ha : a ∈ l) (hsome : f a = some b) (hsame : ∀ other ∈ l, ∀ c, f other = some c → c = b) :
    l.findSome? f = some b := by
  cases hfind : l.findSome? f with
  | none => exact absurd (List.findSome?_eq_none_iff.mp hfind a ha) (by simp [hsome])
  | some c =>
      obtain ⟨other, hother, hc⟩ := List.exists_of_findSome?_eq_some hfind
      rw [hsame other hother c hc]

/-- If the hub at one URL is the only one that answers, it is taken for the owner. -/
theorem owner_hearing {row : AllianceMemberRow} (hrow : row ∈ W.others net allianceId hub)
    {shared : List SharedChannelResponse} (hmentions : Mentions channelId shared) :
    (W.hearing hub fun url =>
        if url = row.hubUrl then .json shared else .unreachable).toAllianceWorld.owner
      (withSessions net hub) allianceId channelId = some (row.hubUrl, "token") := by
  have hserves := serves_hearing W net hub fun url =>
    if url = row.hubUrl then .json shared else .unreachable
  rw [AllianceWorld.owner, hserves.publicKeyHex]
  apply findSome?_eq_some_of_forall hrow
  · have hlisted : channelId ∈ shared.map (·.channelId) := List.mem_map.mpr hmentions
    simp [AllianceWorld.owns, AllianceWorld.token, withSessions, hearing, Reply.map, hlisted]
  · rintro other - ⟨url, token⟩ howns
    obtain ⟨-, htoken, shared', hlisting, -⟩ := owns_eq_some howns
    have hurl : url = row.hubUrl := by
      by_contra hne
      exact absurd hlisting (by simp [hearing, hne])
    cases htoken
    rw [hurl]

/-- **Messages that come to a hub that shares the channel.** This can be relied on exactly if
every other member from which a chain of members leads to the channel shares it itself. -/
theorem deliversRight_iff (hknown : SharesKnown net)
    (hremote : (net hub).db.allianceSharedChannels.has (allianceId, channelId) = false)
    (hpermits : (net hub).db.Permits user sendMessages) :
    DeliversRight bot env user allianceId channelId req W net hub ↔
      ∀ row ∈ W.others net allianceId hub, W.Leads net allianceId channelId row.hubUrl →
        W.OwnerAt net allianceId channelId row.hubUrl := by
  constructor
  · intro h row hrow hleads
    obtain ⟨shared, hanswers, hmentions⟩ := exists_mentions_of_leads hknown hleads
    have howner := owner_hearing hrow hmentions
    have hhears : W.Hears net allianceId hub (W.hearing hub fun url =>
        if url = row.hubUrl then .json shared else .unreachable) (withSessions net hub) :=
      ⟨serves_hearing W net hub _, fun url _ => answers_only hanswers url⟩
    apply h _ _ _ hhears
    refine ⟨?_, "token", "", _, howner, rfl⟩
    exact (postAlliance_succeeds_iff (s := withSessions net hub) hremote).mpr
      ⟨hpermits, row.hubUrl, "token", _, howner, rfl⟩
  · rintro h world s url hhears ⟨-, token, -, -, howner, -⟩
    obtain ⟨row, hrow, rfl, hleads⟩ := hhears.leads_of_owner howner
    exact h row hrow hleads

end AllianceNetwork

/-! ## A chain of three hubs -/

def chainNetwork : AllianceNetwork (Fin 3) where
  lib := hubLib
  address url :=
    if url = "https://a.example" then some 0
    else if url = "https://b.example" then some 1
    else if url = "https://c.example" then some 2
    else none
  hubName _ := "hub"
  address_self := by decide

/-- The first hub knows the second, which knows the third, which shares a channel. -/
def chainHubs : Fin 3 → AppState
  | 0 =>
      { hubIdentity := .replicate 32 5
        db := { Db.migrated with
          users := .single ⟨"owner", 0, 0, .approved, none, false, 0, none, .none, none⟩
          userRoles := .single ⟨"owner", "builtin-owner", 0⟩
          allianceMembers := .single ⟨homeAlliance, peerHubKey, "peer", "https://b.example", 2⟩ } }
  | 1 =>
      { hubIdentity := .replicate 32 6
        db := { Db.migrated with
          allianceMembers := .single ⟨homeAlliance, homeHubKey, "third", "https://c.example", 2⟩ } }
  | 2 => sharingHubs false

/-- A message for the channel of the third hub is given to the second. -/
theorem chainHubs_not_deliversRight :
    ¬ AllianceNetwork.DeliversRight emptyWorld ⟨"new", 3, 3, ⟨"hint", "reply", 3⟩, "error", 3⟩
      "owner" homeAlliance "music" ⟨"hi", [], none⟩ chainNetwork chainHubs 0 := by
  have hknown : AllianceNetwork.SharesKnown chainHubs := by
    intro hub
    match hub with
    | 0 => decide
    | 1 => decide
    | 2 => decide
  have hpermits : (chainHubs 0).db.Permits "owner" sendMessages := by
    show (_ : Bool) = true
    decide +kernel
  rw [AllianceNetwork.deliversRight_iff hknown (by decide) hpermits]
  intro h
  have hsecond : ⟨homeAlliance, peerHubKey, "peer", "https://b.example", 2⟩ ∈
      chainNetwork.others chainHubs homeAlliance 0 := by
    decide +kernel
  have hthird : ⟨homeAlliance, homeHubKey, "third", "https://c.example", 2⟩ ∈
      chainNetwork.others chainHubs homeAlliance 1 := by
    decide +kernel
  obtain ⟨hub, haddress, hshares⟩ :=
    h _ hsecond (.member rfl hthird (.owner ⟨2, rfl, by decide⟩))
  cases haddress
  exact absurd hshares (by decide)

end Voxply.Hub
