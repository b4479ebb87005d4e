/-
# Channels listed by the hubs of an alliance

A hub lists the channels it shares with an alliance, and after them what every other member
lists.  The members ask their own members in turn, so a channel is in the answer of a hub if
a chain of members leads from it to a hub that shares the channel.

Nothing keeps the requests from coming back to a hub that is asking already.  A listing that no
failing request has shortened can only be had if every chain of members comes to an end, which
it never does where two hubs know each other.
-/

import Voxply.Hub.AllianceMirror
import Voxply.Hub.Silencing
import Voxply.Math.ForeignKey
import Mathlib.Data.Set.Finite.Basic

namespace Voxply.Hub

open Voxply.Math Voxply.Identity

/-! ## The handler -/

structure SharedChannelResponse where
  channelId : String
  channelName : String
  hubPublicKey : String
  hubName : String
  deriving DecidableEq

def Reply.map {A B : Type} (f : A → B) : Reply A → Reply B
  | .unreachable => .unreachable
  | .invalid => .invalid
  | .json value => .json (f value)

/-- What was received, if anything was. -/
def Reply.received {A : Type} : Reply (List A) → List A
  | .json values => values
  | _ => []

/-- The hubs of the alliance with all that `get_alliance_shared_channels` gives from a URL,
with a token and the alliance.  Who looks for the owner of a channel reads the ids. -/
structure ListingWorld extends AllianceWorld where
  listing : String → String → String → Reply (List SharedChannelResponse)
  sharedChannels_eq : ∀ url token allianceId, (peer url).sharedChannels token allianceId =
    (listing url token allianceId).map fun shared => shared.map (·.channelId)

/-- The channels that are shared, joined with their rows. -/
def Db.sharedChannels (db : Db) (allianceId : String) : List ChannelRow :=
  (db.allianceSharedChannels.rows.filter (·.allianceId = allianceId)).filterMap fun row =>
    db.channels.find? row.channelId

/-- What a hub shares itself. -/
def Db.ownListing (db : Db) (hubKey hubName allianceId : String) : List SharedChannelResponse :=
  (db.sharedChannels allianceId).map fun row => ⟨row.id, row.name, hubKey, hubName⟩

/-- Ask the other members; who cannot be asked is skipped. -/
def askMembers (world : ListingWorld) (allianceId : String) :
    List AllianceMemberRow → Handler (List SharedChannelResponse)
  | [] => pure []
  | member :: rest => do
      let token ← fetchPeerToken world.toAllianceWorld member
      match token with
      | none => askMembers world allianceId rest
      | some token =>
          match world.listing member.hubUrl token allianceId with
          | .json remote => do
              let others ← askMembers world allianceId rest
              pure (remote ++ others)
          | _ => askMembers world allianceId rest

def listSharedChannels (world : ListingWorld) (allianceId : String) :
    Handler (List SharedChannelResponse) := do
  let hubKey ← .query (·.publicKeyHex world.ed25519)
  let localHubName ← fetch fun db => (db.setting "hub_name").getD world.hubName
  let rows ← fetch (·.ownListing hubKey localHubName allianceId)
  let members ← fetch (·.otherMembers allianceId hubKey)
  let remote ← askMembers world allianceId members
  pure (rows ++ remote)

/-- What a member adds. -/
def ListingWorld.listed (world : ListingWorld) (s : AppState) (allianceId : String)
    (member : AllianceMemberRow) : List SharedChannelResponse :=
  match world.toAllianceWorld.token s member with
  | none => []
  | some token => (world.listing member.hubUrl token allianceId).received

section Listing

variable {world : ListingWorld} {allianceId : String}

/-- As for the search of an owner, what is learnt on the way does not matter to the members
that come later. -/
theorem run_askMembers {members : List AllianceMemberRow}
    (hkeys : members.Pairwise fun a b => a.hubPublicKey ≠ b.hubPublicKey) {s t : AppState}
    (hidentity : t.hubIdentity = s.hubIdentity)
    (htokens : ∀ member ∈ members,
      t.peerTokens member.hubPublicKey = s.peerTokens member.hubPublicKey) :
    ((askMembers world allianceId members).run t).1 =
      .ok (members.flatMap (world.listed s allianceId)) := by
  induction members generalizing t with
  | nil => rfl
  | cons member rest ih =>
      rw [List.pairwise_cons] at hkeys
      obtain ⟨u, hrun, -, hid, hothers⟩ := @run_fetchPeerToken world.toAllianceWorld member t
      have hsame : world.toAllianceWorld.token t member = world.toAllianceWorld.token s member := by
        rw [AllianceWorld.token, AllianceWorld.token, hidentity, htokens member List.mem_cons_self]
      have hnext : ∀ other ∈ rest,
          u.peerTokens other.hubPublicKey = s.peerTokens other.hubPublicKey := by
        intro other hother
        rw [hothers _ (hkeys.1 other hother).symm]
        exact htokens other (List.mem_cons_of_mem _ hother)
      have hrest := ih hkeys.2 (hid.trans hidentity) hnext
      unfold askMembers
      rw [Prog.run_bind_of_ok hrun, hsame, List.flatMap_cons]
      unfold ListingWorld.listed
      cases world.toAllianceWorld.token s member with
      | none => exact hrest
      | some token =>
          dsimp only
          cases world.listing member.hubUrl token allianceId with
          | unreachable => exact hrest
          | invalid => exact hrest
          | json remote =>
              rw [Prog.run_bind_of_ok (Prod.ext hrest rfl)]
              rfl

/-- The hub lists its own channels, and then what the members list. -/
theorem run_listSharedChannels (world : ListingWorld) (allianceId : String) (s : AppState) :
    ((listSharedChannels world allianceId).run s).1 =
      .ok (s.db.ownListing (s.publicKeyHex world.ed25519)
          ((s.db.setting "hub_name").getD world.hubName) allianceId ++
        (s.db.otherMembers allianceId (s.publicKeyHex world.ed25519)).flatMap
          (world.listed s allianceId)) := by
  have hask : ((askMembers world allianceId
      (s.db.otherMembers allianceId (s.publicKeyHex world.ed25519))).run s).1 = _ :=
    run_askMembers (otherMembers_pairwise s.db allianceId (s.publicKeyHex world.ed25519))
      (rfl : _ = s.hubIdentity) fun _ _ => rfl
  rw [listSharedChannels, Prog.run_bind_of_ok (Prog.run_query _ s),
    Prog.run_bind_of_ok (run_fetch _ s), Prog.run_bind_of_ok (run_fetch _ s),
    Prog.run_bind_of_ok (run_fetch _ s), Prog.run_bind_of_ok (Prod.ext hask rfl)]
  rfl

end Listing

/-! ## What comes back from a URL -/

namespace AllianceNetwork

section Answers

variable {H : Type} (W : AllianceNetwork H) (net : H → AppState) (allianceId : String)

/-- The other members that a hub knows. -/
def others (hub : H) : List AllianceMemberRow :=
  (net hub).db.otherMembers allianceId (W.key net hub)

/-- What a hub shares itself. -/
def own (hub : H) : List SharedChannelResponse :=
  (net hub).db.ownListing (W.key net hub) (((net hub).db.setting "hub_name").getD (W.hubName hub))
    allianceId

/-- The hub has the tables and the identity it has in the network.  Its sessions at other
hubs do not count: they come and go while it is asked. -/
structure Serves (hub : H) (world : ListingWorld) (s : AppState) : Prop where
  ed25519 : world.ed25519 = W.lib.ed25519
  hubName : world.hubName = W.hubName hub
  db : s.db = (net hub).db
  identity : s.hubIdentity = (net hub).hubIdentity

/-- What can come back from a request for the listing that is sent to a URL.  Every request
can fail; one that does not is answered by a hub that has asked its members. -/
inductive Answers : String → Reply (List SharedChannelResponse) → Prop
  | unreachable (url : String) : Answers url .unreachable
  | invalid (url : String) : Answers url .invalid
  | json {url : String} {hub : H} {world : ListingWorld} {s t : AppState}
      {shared : List SharedChannelResponse} (haddress : W.address url = some hub)
      (hserves : W.Serves net hub world s)
      (hheard : ∀ url token, Answers url (world.listing url token allianceId))
      (hrun : (listSharedChannels world allianceId).run s = (.ok shared, t)) :
      Answers url (.json shared)

/-- A hub asks the others: what it hears is what can come back from them. -/
structure Hears (hub : H) (world : ListingWorld) (s : AppState) : Prop
    extends W.Serves net hub world s where
  heard : ∀ url token, W.Answers net allianceId url (world.listing url token allianceId)

/-- The hub at the URL shares the channel. -/
def OwnerAt (channelId url : String) : Prop :=
  ∃ hub, W.address url = some hub ∧
    (net hub).db.allianceSharedChannels.has (allianceId, channelId) = true

/-- A chain of members leads from the URL to a hub that shares the channel. -/
inductive Leads (channelId : String) : String → Prop
  | owner {url : String} (howner : W.OwnerAt net allianceId channelId url) : Leads channelId url
  | member {url : String} {hub : H} {row : AllianceMemberRow} (haddress : W.address url = some hub)
      (hrow : row ∈ W.others net allianceId hub) (hleads : Leads channelId row.hubUrl) :
      Leads channelId url

end Answers

variable {H : Type} {W : AllianceNetwork H} {net : H → AppState} {allianceId : String}

theorem Serves.publicKeyHex {hub : H} {world : ListingWorld} {s : AppState}
    (h : W.Serves net hub world s) : s.publicKeyHex world.ed25519 = W.key net hub := by
  rw [AppState.publicKeyHex, h.ed25519, h.identity]
  rfl

/-- A hub answers with what it shares, and with what it has heard from every member that it
could ask. -/
theorem Serves.listed {hub : H} {world : ListingWorld} {s t : AppState}
    {shared : List SharedChannelResponse} (h : W.Serves net hub world s)
    (hrun : (listSharedChannels world allianceId).run s = (.ok shared, t)) :
    shared = W.own net allianceId hub ++
      (W.others net allianceId hub).flatMap (world.listed s allianceId) := by
  have hlisted := run_listSharedChannels world allianceId s
  rw [hrun, h.publicKeyHex, h.hubName, h.db] at hlisted
  exact Except.ok.inj hlisted

/-- What a member adds is an answer of its. -/
theorem mem_listed {world : ListingWorld} {s : AppState} {member : AllianceMemberRow}
    {entry : SharedChannelResponse} (h : entry ∈ world.listed s allianceId member) :
    ∃ token shared, world.toAllianceWorld.token s member = some token ∧
      world.listing member.hubUrl token allianceId = .json shared ∧ entry ∈ shared := by
  unfold ListingWorld.listed at h
  cases htoken : world.toAllianceWorld.token s member with
  | none =>
      rw [htoken] at h
      cases h
  | some token =>
      rw [htoken] at h
      dsimp only at h
      cases hlisting : world.listing member.hubUrl token allianceId with
      | unreachable =>
          rw [hlisting] at h
          cases h
      | invalid =>
          rw [hlisting] at h
          cases h
      | json shared =>
          rw [hlisting] at h
          exact ⟨token, shared, rfl, hlisting, h⟩

/-! ## A network in which given answers come back -/

/-- The hubs answer the request for the listing as given, and nothing else. -/
def hearing (W : AllianceNetwork H) (hub : H)
    (replies : String → Reply (List SharedChannelResponse)) : ListingWorld where
  ed25519 := W.lib.ed25519
  hubName := W.hubName hub
  peer url :=
    { info := .unreachable
      challenge := fun _ => .unreachable
      verify := fun _ => .unreachable
      sharedChannels := fun _ _ => (replies url).map fun shared => shared.map (·.channelId)
      postMessage := fun _ channelId content => .json ⟨"id", channelId, "hub", none, content, 0,
        none, [], [], none, none⟩
      channelMessages := fun _ _ => .json [] }
  listing url _ _ := replies url
  sharedChannels_eq _ _ _ := rfl

/-- The hub, with a session at every other. -/
def withSessions (net : H → AppState) (hub : H) : AppState :=
  { net hub with peerTokens := fun _ => some "token" }

theorem serves_hearing (W : AllianceNetwork H) (net : H → AppState) (hub : H)
    (replies : String → Reply (List SharedChannelResponse)) :
    W.Serves net hub (W.hearing hub replies) (withSessions net hub) :=
  ⟨rfl, rfl, rfl, rfl⟩

/-- A hub that can ask all members answers with all they say. -/
theorem answers_hearing {url : String} {hub : H} (haddress : W.address url = some hub)
    {replies : String → Reply (List SharedChannelResponse)}
    (hreplies : ∀ url, W.Answers net allianceId url (replies url)) :
    W.Answers net allianceId url (.json (W.own net allianceId hub ++
      (W.others net allianceId hub).flatMap fun row => (replies row.hubUrl).received)) := by
  have hserves := serves_hearing W net hub replies
  have hrun := run_listSharedChannels (W.hearing hub replies) allianceId (withSessions net hub)
  rw [hserves.publicKeyHex, hserves.hubName, hserves.db] at hrun
  exact .json haddress hserves (fun url _ => hreplies url) (Prod.ext hrun rfl)

/-- The answers of all hubs, if all fail but one. -/
theorem answers_only {url : String} {reply : Reply (List SharedChannelResponse)}
    (h : W.Answers net allianceId url reply) (other : String) :
    W.Answers net allianceId other (if other = url then reply else .unreachable) := by
  split_ifs with hsame
  · exact hsame ▸ h
  · exact .unreachable other

/-! ## Which channels are mentioned -/

/-- The channel is among those that are listed. -/
def Mentions (channelId : String) (shared : List SharedChannelResponse) : Prop :=
  ∃ entry ∈ shared, entry.channelId = channelId

/-- Every channel that a hub shares is one that it has. -/
def SharesKnown (net : H → AppState) : Prop :=
  ∀ hub, (net hub).db.allianceSharedChannels.Refers (some ·.channelId) (net hub).db.channels

theorem has_of_mem_own {hub : H} {channelId : String}
    (h : Mentions channelId (W.own net allianceId hub)) :
    (net hub).db.allianceSharedChannels.has (allianceId, channelId) = true := by
  obtain ⟨entry, hentry, hid⟩ := h
  obtain ⟨channel, hchannel, rfl⟩ := List.mem_map.mp hentry
  obtain ⟨row, hrow, hfind⟩ := List.mem_filterMap.mp hchannel
  obtain ⟨hrow, halliance⟩ := List.mem_filter.mp hrow
  refine Table.has_iff.mpr ⟨row, hrow, ?_⟩
  rw [AllianceSharedChannelRow.key, of_decide_eq_true halliance, ← hid,
    ← (Table.find?_eq_some_iff.mp hfind).2]

theorem mem_own_of_has (hknown : SharesKnown net) {hub : H} {channelId : String}
    (h : (net hub).db.allianceSharedChannels.has (allianceId, channelId) = true) :
    Mentions channelId (W.own net allianceId hub) := by
  obtain ⟨row, hrow, hkey⟩ := Table.has_iff.mp h
  have halliance : row.allianceId = allianceId := congrArg Prod.fst hkey
  have hchannel : row.channelId = channelId := congrArg Prod.snd hkey
  obtain ⟨channel, hmem, hid⟩ := Table.has_iff.mp (hknown hub row hrow row.channelId rfl)
  have hfind : (net hub).db.channels.find? row.channelId = some channel :=
    Table.find?_eq_some_iff.mpr ⟨hmem, hid⟩
  refine ⟨_, List.mem_map.mpr ⟨channel, List.mem_filterMap.mpr ⟨row, ?_, hfind⟩, rfl⟩,
    hid.trans hchannel⟩
  exact List.mem_filter.mpr ⟨hrow, decide_eq_true halliance⟩

/-- Whoever owns the channel mentions it, whatever the members say. -/
theorem mentions_of_ownerAt (hknown : SharesKnown net) {url channelId : String}
    (howner : W.OwnerAt net allianceId channelId url) {shared : List SharedChannelResponse}
    (h : W.Answers net allianceId url (.json shared)) : Mentions channelId shared := by
  obtain ⟨hub, haddress, hshares⟩ := howner
  cases h with
  | json haddress' hserves hheard hrun =>
      cases haddress.symm.trans haddress'
      obtain ⟨entry, hentry, hid⟩ := mem_own_of_has hknown hshares
      rw [hserves.listed hrun]
      exact ⟨entry, List.mem_append_left _ hentry, hid⟩

/-- Whoever mentions the channel leads to an owner. The induction is on the requests that
the answer is made from. -/
theorem leads_of_mentions {url channelId : String} {reply : Reply (List SharedChannelResponse)}
    (h : W.Answers net allianceId url reply) {shared : List SharedChannelResponse}
    (hreply : reply = .json shared) (hmentions : Mentions channelId shared) :
    W.Leads net allianceId channelId url := by
  induction h generalizing shared with
  | unreachable => cases hreply
  | invalid => cases hreply
  | json haddress hserves _ hrun ih =>
      cases hreply
      rw [hserves.listed hrun] at hmentions
      obtain ⟨entry, hentry, hid⟩ := hmentions
      rcases List.mem_append.mp hentry with hown | hasked
      · exact .owner ⟨_, haddress, has_of_mem_own ⟨entry, hown, hid⟩⟩
      · obtain ⟨member, hmember, hlisted⟩ := List.mem_flatMap.mp hasked
        obtain ⟨token, remote, -, hlisting, hremote⟩ := mem_listed hlisted
        exact .member haddress hmember (ih _ token hlisting ⟨entry, hremote, hid⟩)

/-- Whoever leads to an owner can mention the channel. -/
theorem exists_mentions_of_leads (hknown : SharesKnown net) {url channelId : String}
    (h : W.Leads net allianceId channelId url) :
    ∃ shared, W.Answers net allianceId url (.json shared) ∧ Mentions channelId shared := by
  induction h with
  | owner howner =>
      obtain ⟨hub, haddress, hshares⟩ := howner
      obtain ⟨entry, hentry, hid⟩ := mem_own_of_has (W := W) hknown hshares
      exact ⟨_, answers_hearing haddress .unreachable, entry, List.mem_append_left _ hentry, hid⟩
  | member haddress hrow _ ih =>
      obtain ⟨remote, hanswers, entry, hentry, hid⟩ := ih
      refine ⟨_, answers_hearing haddress (answers_only hanswers), entry,
        List.mem_append_right _ (List.mem_flatMap.mpr ⟨_, hrow, ?_⟩), hid⟩
      rw [if_pos rfl]
      exact hentry

/-- A hub can mention a channel exactly if a chain of members leads to one that shares
it. -/
theorem exists_mentions_iff (hknown : SharesKnown net) {url channelId : String} :
    (∃ shared, W.Answers net allianceId url (.json shared) ∧ Mentions channelId shared) ↔
      W.Leads net allianceId channelId url :=
  ⟨fun ⟨_, hanswers, hmentions⟩ => leads_of_mentions hanswers rfl hmentions,
    exists_mentions_of_leads hknown⟩

end AllianceNetwork

/-- Two hubs of an alliance. The first knows the second, which shares a channel. -/
def sharingHubs : Bool → AppState
  | true =>
      { hubIdentity := .replicate 32 5
        db := { Db.migrated with
          alliances := .single ⟨homeAlliance, "home", "owner", 1⟩
          allianceMembers := ⟨[⟨homeAlliance, homeHubKey, "home", "self", 1⟩,
            ⟨homeAlliance, peerHubKey, "peer", "https://b.example", 2⟩], by decide⟩ } }
  | false =>
      { hubIdentity := .replicate 32 6
        db := { Db.migrated with
          channels := ⟨[⟨"music", "music", "owner", none, false, 0, none, none, none, none, .text,
            0, 0⟩], by decide⟩
          allianceSharedChannels := .single ⟨homeAlliance, "music", 3⟩ } }

theorem sharingHubs_mention :
    ∃ shared, invitingNetwork.Answers sharingHubs homeAlliance "https://a.example"
      (.json shared) ∧ AllianceNetwork.Mentions "music" shared := by
  have hknown : AllianceNetwork.SharesKnown sharingHubs := by
    rintro (_ | _) <;> decide
  apply (AllianceNetwork.exists_mentions_iff hknown).mpr
  have hrow : ⟨homeAlliance, peerHubKey, "peer", "https://b.example", 2⟩ ∈
      invitingNetwork.others sharingHubs homeAlliance true := by
    decide +kernel
  exact .member rfl hrow (.owner ⟨false, rfl, by decide⟩)

/-! ## Listings that no failure has shortened -/

/-- The requests that the hub makes with success have the same outcome in the better world;
those that fail may have any. -/
structure ListingWorld.Better (world : ListingWorld) (s : AppState) (better : ListingWorld) :
    Prop where
  ed25519 : better.ed25519 = world.ed25519
  hubName : better.hubName = world.hubName
  login : ∀ url token,
    authenticate world.ed25519 s.hubIdentity (world.peer url).toRemote = .ok token →
      authenticate better.ed25519 s.hubIdentity (better.peer url).toRemote = .ok token
  listing : ∀ url token allianceId shared, world.listing url token allianceId = .json shared →
    better.listing url token allianceId = .json shared

/-- The hub would answer the same if requests that have failed had not. -/
def ListingWorld.Unshortened (world : ListingWorld) (s : AppState) (allianceId : String)
    (shared : List SharedChannelResponse) : Prop :=
  ∀ better, world.Better s better →
    ((listSharedChannels better allianceId).run s).1 = .ok shared

/-- The entry, where nothing was received. -/
def Reply.orEntry (entry : SharedChannelResponse) :
    Reply (List SharedChannelResponse) → Reply (List SharedChannelResponse)
  | .json shared => .json shared
  | _ => .json [entry]

/-- A hub that lets in whoever asks. -/
def openPeer : Remote where
  info := .unreachable
  challenge := fun _ => .json ""
  verify := fun _ => .json ⟨"token", "full"⟩

theorem authenticate_openPeer (E : Ed25519) (identity : List UInt8) :
    authenticate E identity openPeer = .ok "token" := rfl

/-- Every login that fails is let in, and every listing that fails has one entry. -/
def ListingWorld.improved (world : ListingWorld) (s : AppState) (entry : SharedChannelResponse) :
    ListingWorld where
  ed25519 := world.ed25519
  hubName := world.hubName
  peer url :=
    { toRemote :=
        match authenticate world.ed25519 s.hubIdentity (world.peer url).toRemote with
        | .ok _ => (world.peer url).toRemote
        | .error _ => openPeer
      sharedChannels := fun token allianceId =>
        ((world.listing url token allianceId).orEntry entry).map
          fun shared => shared.map (·.channelId)
      postMessage := (world.peer url).postMessage
      channelMessages := (world.peer url).channelMessages }
  listing url token allianceId := (world.listing url token allianceId).orEntry entry
  sharedChannels_eq _ _ _ := rfl

theorem ListingWorld.better_improved (world : ListingWorld) (s : AppState)
    (entry : SharedChannelResponse) : world.Better s (world.improved s entry) where
  ed25519 := rfl
  hubName := rfl
  login url token h := by
    rw [improved]
    dsimp only
    rw [h]
    exact h
  listing url token allianceId shared h := by
    rw [improved]
    dsimp only
    rw [h]
    rfl

/-- Every member can be asked in the improved world, and what comes back is the new entry or
what the member lists already. -/
theorem ListingWorld.listed_improved (world : ListingWorld) (s : AppState)
    (entry : SharedChannelResponse) (allianceId : String) (member : AllianceMemberRow) :
    (world.improved s entry).listed s allianceId member = [entry] ∨
      ∃ token remote, world.listing member.hubUrl token allianceId = .json remote ∧
        (world.improved s entry).listed s allianceId member = remote := by
  have htoken : ∃ token,
      (world.improved s entry).toAllianceWorld.token s member = some token := by
    rw [AllianceWorld.token, improved]
    cases s.peerTokens member.hubPublicKey with
    | some token => exact ⟨token, rfl⟩
    | none =>
        cases hlogin : authenticate world.ed25519 s.hubIdentity
            (world.peer member.hubUrl).toRemote with
        | ok token => exact ⟨token, by simp [hlogin, Except.toOption]⟩
        | error e => exact ⟨"token", by simp [hlogin, authenticate_openPeer, Except.toOption]⟩
  obtain ⟨token, htoken⟩ := htoken
  rw [ListingWorld.listed, htoken]
  dsimp only
  rw [improved]
  dsimp only
  cases hlisting : world.listing member.hubUrl token allianceId with
  | unreachable => exact .inl rfl
  | invalid => exact .inl rfl
  | json remote => exact .inr ⟨token, remote, hlisting, rfl⟩

/-- There is always something that is not listed. -/
theorem exists_entry (shared : List SharedChannelResponse) :
    ∃ entry : SharedChannelResponse, entry ∉ shared := by
  have hinjective : Function.Injective fun bytes : List UInt8 =>
      (⟨hexEncode bytes, "", "", ""⟩ : SharedChannelResponse) :=
    fun first second h => hexEncode_injective (congrArg (·.channelId) h)
  obtain ⟨entry, -, hentry⟩ :=
    (Set.infinite_range_of_injective hinjective).exists_notMem_finset shared.toFinset
  exact ⟨entry, fun h => hentry (List.mem_toFinset.mpr h)⟩

namespace AllianceNetwork

/-- A listing that no failing request has shortened: what comes back from the others is a failure
or such a listing, and the failures make no difference. -/
inductive Complete {H : Type} (W : AllianceNetwork H) (net : H → AppState) (allianceId : String) :
    String → List SharedChannelResponse → Prop
  | answered {url : String} {hub : H} {world : ListingWorld} {s : AppState}
      {shared : List SharedChannelResponse} (haddress : W.address url = some hub)
      (hserves : W.Serves net hub world s)
      (hheard : ∀ url token remote, world.listing url token allianceId = .json remote →
        Complete W net allianceId url remote)
      (hunshortened : world.Unshortened s allianceId shared) :
      Complete W net allianceId url shared

section

variable {H : Type} (W : AllianceNetwork H) (net : H → AppState) (allianceId : String)

/-- The hub at the first URL knows a member at the second. -/
def Asks (url next : String) : Prop :=
  ∃ hub, W.address url = some hub ∧ ∃ row ∈ W.others net allianceId hub, row.hubUrl = next

/-- There is a hub at the URL, and every chain of members from it leads to hubs and stops
somewhere. -/
inductive Settles : String → Prop
  | asks {url : String} {hub : H} (haddress : W.address url = some hub)
      (hnext : ∀ row ∈ W.others net allianceId hub, Settles row.hubUrl) : Settles url

/-- What is to hold of the listings that no failing request has shortened. -/
structure CompleteRight (url : String) : Prop where
  possible : (∃ shared, W.Complete net allianceId url shared) ↔ W.Settles net allianceId url
  unique : ∀ first second, W.Complete net allianceId url first →
    W.Complete net allianceId url second → first = second
  acyclic : Relation.TransGen (W.Asks net allianceId) url url →
    ∀ shared, ¬ W.Complete net allianceId url shared
  mentions : SharesKnown net → ∀ shared, W.Complete net allianceId url shared → ∀ channelId,
    Mentions channelId shared ↔ W.Leads net allianceId channelId url

end

variable {H : Type} {W : AllianceNetwork H} {net : H → AppState} {allianceId : String}

/-- In a better world a hub answers with what it shares and with what it hears there. -/
theorem Serves.run_of_better {hub : H} {world better : ListingWorld} {s : AppState}
    (h : W.Serves net hub world s) (hbetter : world.Better s better) :
    ((listSharedChannels better allianceId).run s).1 =
      .ok (W.own net allianceId hub ++
        (W.others net allianceId hub).flatMap (better.listed s allianceId)) := by
  have hserves : W.Serves net hub better s :=
    ⟨hbetter.ed25519.trans h.ed25519, hbetter.hubName.trans h.hubName, h.db, h.identity⟩
  have hrun := run_listSharedChannels better allianceId s
  rwa [hserves.publicKeyHex, hserves.hubName, hserves.db] at hrun

/-- An answer that no failure has shortened is the one of the improved world too. -/
theorem eq_of_unshortened {hub : H} {world : ListingWorld} {s : AppState}
    {shared : List SharedChannelResponse} (h : W.Serves net hub world s)
    (hunshortened : world.Unshortened s allianceId shared) (entry : SharedChannelResponse) :
    shared = W.own net allianceId hub ++
      (W.others net allianceId hub).flatMap ((world.improved s entry).listed s allianceId) :=
  have hbetter := world.better_improved s entry
  Except.ok.inj ((hunshortened _ hbetter).symm.trans (h.run_of_better hbetter))

/-- If no failure has shortened the answer, every member has listed something.  Otherwise the
new entry would have been in the answer. -/
theorem listing_of_unshortened {hub : H} {world : ListingWorld} {s : AppState}
    {shared : List SharedChannelResponse} (h : W.Serves net hub world s)
    (hunshortened : world.Unshortened s allianceId shared) {entry : SharedChannelResponse}
    (hnew : entry ∉ shared) {row : AllianceMemberRow} (hrow : row ∈ W.others net allianceId hub) :
    ∃ token remote, world.listing row.hubUrl token allianceId = .json remote ∧
      (world.improved s entry).listed s allianceId row = remote := by
  rcases world.listed_improved s entry allianceId row with honly | hlisting
  · have hmem : entry ∈ shared := by
      rw [eq_of_unshortened h hunshortened entry]
      apply List.mem_append_right
      exact List.mem_flatMap.mpr ⟨row, hrow, honly ▸ List.mem_cons_self⟩
    exact absurd hmem hnew
  · exact hlisting

/-- What the member has listed is in the answer. -/
theorem exists_listing_of_unshortened {hub : H} {world : ListingWorld} {s : AppState}
    {shared : List SharedChannelResponse} (h : W.Serves net hub world s)
    (hunshortened : world.Unshortened s allianceId shared) {row : AllianceMemberRow}
    (hrow : row ∈ W.others net allianceId hub) :
    ∃ token remote, world.listing row.hubUrl token allianceId = .json remote ∧
      ∀ entry ∈ remote, entry ∈ shared := by
  obtain ⟨new, hnew⟩ := exists_entry shared
  obtain ⟨token, remote, hlisting, hlisted⟩ := listing_of_unshortened h hunshortened hnew hrow
  refine ⟨token, remote, hlisting, fun entry hentry => ?_⟩
  rw [eq_of_unshortened h hunshortened new]
  exact List.mem_append_right _ (List.mem_flatMap.mpr ⟨row, hrow, hlisted ▸ hentry⟩)

theorem Complete.settles {url : String} {shared : List SharedChannelResponse}
    (h : W.Complete net allianceId url shared) : W.Settles net allianceId url := by
  induction h with
  | answered haddress hserves _ hunshortened ih =>
      refine .asks haddress fun row hrow => ?_
      obtain ⟨token, remote, hlisting, -⟩ :=
        exists_listing_of_unshortened hserves hunshortened hrow
      exact ih _ token remote hlisting

/-- A listing that is not shortened can come back. -/
theorem Complete.answers {url : String} {shared : List SharedChannelResponse}
    (h : W.Complete net allianceId url shared) : W.Answers net allianceId url (.json shared) := by
  induction h with
  | @answered _ _ world s _ haddress hserves _ hunshortened ih =>
      have hrun := hunshortened world ⟨rfl, rfl, fun _ _ h => h, fun _ _ _ _ h => h⟩
      refine .json haddress hserves (fun url token => ?_) (Prod.ext hrun rfl)
      cases hlisting : world.listing url token allianceId with
      | unreachable => exact .unreachable url
      | invalid => exact .invalid url
      | json remote => exact ih url token remote hlisting

/-- There is one such listing.  Whatever fails on the way, the members are asked in the order
of their rows. -/
theorem Complete.unique {url : String} {first second : List SharedChannelResponse}
    (hfirst : W.Complete net allianceId url first)
    (hsecond : W.Complete net allianceId url second) : first = second := by
  induction hfirst generalizing second with
  | @answered _ hub world s first haddress hserves _ hunshortened ih =>
      cases hsecond with
      | @answered _ hub' world' s' _ haddress' hserves' hheard' hunshortened' =>
          cases haddress.symm.trans haddress'
          obtain ⟨new, hnew⟩ := exists_entry (first ++ second)
          have hfirst : new ∉ first := fun h => hnew (List.mem_append_left _ h)
          have hsecond : new ∉ second := fun h => hnew (List.mem_append_right _ h)
          have hlisted : ∀ row ∈ W.others net allianceId hub,
              (world.improved s new).listed s allianceId row =
                (world'.improved s' new).listed s' allianceId row := by
            intro row hrow
            obtain ⟨token, remote, hlisting, heq⟩ :=
              listing_of_unshortened hserves hunshortened hfirst hrow
            obtain ⟨token', remote', hlisting', heq'⟩ :=
              listing_of_unshortened hserves' hunshortened' hsecond hrow
            rw [heq, heq']
            exact ih _ token remote hlisting (hheard' _ token' remote' hlisting')
          rw [eq_of_unshortened hserves hunshortened new,
            eq_of_unshortened hserves' hunshortened' new, List.flatMap_congr hlisted]

/-- It mentions every channel that a chain of members leads to. -/
theorem Complete.mentions (hknown : SharesKnown net) {url channelId : String}
    {shared : List SharedChannelResponse} (h : W.Complete net allianceId url shared)
    (hleads : W.Leads net allianceId channelId url) : Mentions channelId shared := by
  have hanswers := h.answers
  induction h with
  | answered haddress hserves hheard hunshortened ih =>
      cases hleads with
      | owner howner => exact mentions_of_ownerAt hknown howner hanswers
      | member haddress' hrow hleads =>
          cases haddress.symm.trans haddress'
          obtain ⟨token, remote, hlisting, hlisted⟩ :=
            exists_listing_of_unshortened hserves hunshortened hrow
          obtain ⟨entry, hentry, hid⟩ :=
            ih _ token remote hlisting hleads (hheard _ token remote hlisting).answers
          exact ⟨entry, hlisted entry hentry, hid⟩

/-- What every member answers is put together. -/
theorem Settles.exists_complete {url : String} (h : W.Settles net allianceId url) :
    ∃ shared, W.Complete net allianceId url shared := by
  classical
  induction h with
  | @asks url hub haddress _ ih =>
      let replies := fun url => if h : ∃ shared, W.Complete net allianceId url shared
        then Reply.json h.choose else .unreachable
      have hserves := serves_hearing W net hub replies
      have hheard : ∀ url remote, replies url = .json remote →
          W.Complete net allianceId url remote := by
        intro url remote hreply
        by_cases hcomplete : ∃ shared, W.Complete net allianceId url shared
        · cases (dif_pos hcomplete).symm.trans hreply
          exact hcomplete.choose_spec
        · cases (dif_neg hcomplete).symm.trans hreply
      refine ⟨W.own net allianceId hub ++
          (W.others net allianceId hub).flatMap fun row => (replies row.hubUrl).received,
        .answered haddress hserves (fun url _ => hheard url) fun better hbetter => ?_⟩
      rw [hserves.run_of_better hbetter]
      -- no request of the hub has failed, so all are answered the same
      have hsame : ∀ row ∈ W.others net allianceId hub,
          better.listed (withSessions net hub) allianceId row = (replies row.hubUrl).received := by
        intro row hrow
        have hreply : replies row.hubUrl = .json (ih row hrow).choose := dif_pos (ih row hrow)
        have hlisting := hbetter.listing row.hubUrl "token" allianceId _ hreply
        have htoken : better.toAllianceWorld.token (withSessions net hub) row = some "token" := rfl
        rw [ListingWorld.listed, htoken, hreply]
        dsimp only
        rw [hlisting]
      exact congrArg Except.ok (congrArg (W.own net allianceId hub ++ ·)
        (List.flatMap_congr hsame))

/-- The chains of members that come to an end lead back to no hub that they have passed. -/
theorem Settles.not_transGen {url : String} (h : W.Settles net allianceId url) :
    ¬ Relation.TransGen (W.Asks net allianceId) url url := by
  induction h with
  | @asks url hub haddress _ ih =>
      intro hcycle
      obtain ⟨next, ⟨hub', haddress', row, hrow, rfl⟩, hback⟩ :=
        Relation.TransGen.head'_iff.mp hcycle
      cases haddress.symm.trans haddress'
      exact ih row hrow (.tail' hback ⟨hub, haddress, row, hrow, rfl⟩)

/-- **Listings that no failure has shortened.** They come from hubs from which every chain of
members leads to hubs and comes to an end, and they mention all that can be mentioned. -/
theorem completeRight (W : AllianceNetwork H) (net : H → AppState) (allianceId url : String) :
    W.CompleteRight net allianceId url where
  possible := ⟨fun ⟨_, h⟩ => h.settles, Settles.exists_complete⟩
  unique _ _ := Complete.unique
  acyclic hcycle _ h := h.settles.not_transGen hcycle
  mentions hknown _ h _ := ⟨leads_of_mentions h.answers rfl, h.mentions hknown⟩

end AllianceNetwork

/-- Two hubs that have each other as members. -/
def mutualHubs : Bool → AppState
  | true =>
      { hubIdentity := .replicate 32 5
        db := { Db.migrated with
          allianceMembers := .single ⟨homeAlliance, peerHubKey, "peer", "https://b.example", 2⟩ } }
  | false =>
      { hubIdentity := .replicate 32 6
        db := { Db.migrated with
          allianceMembers := .single ⟨homeAlliance, homeHubKey, "home", "https://a.example", 1⟩ } }

/-- A hub whose only other member knows nobody else, and one that is asked back. -/
theorem sharingHubs_complete :
    (∃ shared, invitingNetwork.Complete sharingHubs homeAlliance "https://a.example" shared ∧
      AllianceNetwork.Mentions "music" shared) ∧
      ∀ shared, ¬ invitingNetwork.Complete mutualHubs homeAlliance "https://a.example" shared := by
  have hknown : AllianceNetwork.SharesKnown sharingHubs := by
    rintro (_ | _) <;> decide
  have hrow : ⟨homeAlliance, peerHubKey, "peer", "https://b.example", 2⟩ ∈
      invitingNetwork.others sharingHubs homeAlliance true := by
    decide +kernel
  have hnobody : invitingNetwork.others sharingHubs homeAlliance false = [] := by
    decide +kernel
  have honly : ∀ row ∈ invitingNetwork.others sharingHubs homeAlliance true,
      row.hubUrl = "https://b.example" := by
    decide +kernel
  have hsettles : invitingNetwork.Settles sharingHubs homeAlliance "https://a.example" := by
    refine .asks rfl fun row hmem => ?_
    rw [honly row hmem]
    exact .asks rfl (by simp [hnobody])
  constructor
  · have hright : invitingNetwork.CompleteRight sharingHubs homeAlliance "https://a.example" :=
      AllianceNetwork.completeRight _ _ _ _
    obtain ⟨shared, hcomplete⟩ := hright.possible.mpr hsettles
    refine ⟨shared, hcomplete, (hright.mentions hknown shared hcomplete "music").mpr ?_⟩
    exact .member rfl hrow (.owner ⟨false, rfl, by decide⟩)
  · apply (invitingNetwork.completeRight mutualHubs homeAlliance "https://a.example").acyclic
    have hpeer : ⟨homeAlliance, peerHubKey, "peer", "https://b.example", 2⟩ ∈
        invitingNetwork.others mutualHubs homeAlliance true := by
      decide +kernel
    have hhome : ⟨homeAlliance, homeHubKey, "home", "https://a.example", 1⟩ ∈
        invitingNetwork.others mutualHubs homeAlliance false := by
      decide +kernel
    have hasks : invitingNetwork.Asks mutualHubs homeAlliance "https://a.example"
        "https://b.example" := ⟨true, rfl, _, hpeer, rfl⟩
    have hasked : invitingNetwork.Asks mutualHubs homeAlliance "https://b.example"
        "https://a.example" := ⟨false, rfl, _, hhome, rfl⟩
    exact .tail (.single hasks) hasked

end Voxply.Hub
