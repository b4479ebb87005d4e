/-
# Channels of other hubs

The channels of a peer are cached under identifiers of this hub: the first sixteen bytes
of the peer's key, a colon, and the identifier of the channel there.  The identifier is the
primary key of the cache, but the upsert answers for conflicts of the peer and the remote
identifier only.  The key is whatever the peer has reported, and taking sixteen bytes of a
shorter one, or of one with a character across that place, is a panic.
-/

import Voxply.Hub.Channels
import Voxply.Hub.Messages
import Voxply.Math.Trace

namespace Voxply.Hub

open Voxply.Math Voxply.Identity

/-! ## Slices -/

/-- The characters that take up the given number of bytes, if they do so exactly. -/
def takeBytes : ℕ → List Char → Option (List Char)
  | 0, _ => some []
  | _ + 1, [] => none
  | n + 1, c :: rest =>
      if c.utf8Size ≤ n + 1 then (takeBytes (n + 1 - c.utf8Size) rest).map (c :: ·) else none

/-- `&key[..16]`. There is none where the slice would panic. -/
def keyPrefix (key : String) : Option String :=
  (takeBytes 16 key.toList).map String.ofList

theorem takeBytes_size {n : ℕ} {chars taken : List Char} (h : takeBytes n chars = some taken) :
    (taken.map Char.utf8Size).sum = n := by
  induction chars generalizing n taken with
  | nil =>
      cases n with
      | zero =>
          cases h
          rfl
      | succ n => cases h
  | cons c rest ih =>
      cases n with
      | zero =>
          cases h
          rfl
      | succ n =>
          rw [takeBytes] at h
          split_ifs at h with hfits
          obtain ⟨tail, htail, rfl⟩ := Option.map_eq_some_iff.mp h
          rw [List.map_cons, List.sum_cons, ih htail]
          omega

/-- Of two texts with a common continuation into one, those of the same number of bytes
are the same. -/
theorem append_inj_of_size {first second first' second' : List Char}
    (h : first ++ second = first' ++ second')
    (hsize : (first.map Char.utf8Size).sum = (first'.map Char.utf8Size).sum) :
    first = first' ∧ second = second' := by
  induction first generalizing first' with
  | nil =>
      cases first' with
      | nil => exact ⟨rfl, h⟩
      | cons c rest =>
          have := c.utf8Size_pos
          simp only [List.map_nil, List.map_cons, List.sum_nil, List.sum_cons] at hsize
          omega
  | cons c rest ih =>
      cases first' with
      | nil =>
          have := c.utf8Size_pos
          simp only [List.map_nil, List.map_cons, List.sum_nil, List.sum_cons] at hsize
          omega
      | cons c' rest' =>
          obtain ⟨rfl, htail⟩ := List.cons_eq_cons.mp h
          obtain ⟨rfl, hsecond⟩ := ih htail (by simpa using hsize)
          exact ⟨rfl, hsecond⟩

/-! ## Identifiers -/

/-- `format!("{}:{}", …)`. -/
def fedChannelId (keyStart remoteId : String) : String :=
  keyStart ++ ":" ++ remoteId

/-- The starts of keys and the remote identifiers are read off the identifier. -/
theorem fedChannelId_inj {key key' start start' remoteId remoteId' : String}
    (hstart : keyPrefix key = some start) (hstart' : keyPrefix key' = some start')
    (h : fedChannelId start remoteId = fedChannelId start' remoteId') :
    start = start' ∧ remoteId = remoteId' := by
  obtain ⟨taken, htaken, rfl⟩ := Option.map_eq_some_iff.mp hstart
  obtain ⟨taken', htaken', rfl⟩ := Option.map_eq_some_iff.mp hstart'
  have hchars := congrArg String.toList h
  simp only [fedChannelId, String.toList_append, String.toList_ofList, List.append_assoc] at hchars
  obtain ⟨rfl, hrest⟩ := append_inj_of_size hchars
    ((takeBytes_size htaken).trans (takeBytes_size htaken').symm)
  exact ⟨rfl, String.toList_injective (List.append_cancel_left hrest)⟩

/-! ## Requests and answers -/

structure PeerInfo where
  publicKey : String
  name : String
  url : String
  addedAt : Int
  deriving DecidableEq

structure FederatedChannelResponse where
  id : String
  peerPublicKey : String
  remoteId : String
  name : String
  createdAt : Int
  deriving DecidableEq

structure FederatedMessageResponse where
  id : String
  remoteId : String
  sender : String
  content : String
  createdAt : Int
  deriving DecidableEq

/-- How a handler ends that does not return. -/
inductive Ending where
  | rejected (e : ApiError)
  | panicked
  deriving DecidableEq

/-- A handler that may panic. -/
abbrev PeerHandler (A : Type) := Prog AppState Ending A

/-- The parts of such a handler that do not panic. -/
def answering {A : Type} (p : Handler A) : PeerHandler A :=
  p.mapFail .rejected

theorem run_answering_of_ok {A : Type} {p : Handler A} {s t : AppState} {a : A}
    (h : p.run s = (.ok a, t)) : (answering p).run s = (.ok a, t) :=
  Prog.run_mapFail_of_ok h

theorem run_answering_of_error {A : Type} {p : Handler A} {s t : AppState} {e : ApiError}
    (h : p.run s = (.error e, t)) : (answering p).run s = (.error (.rejected e), t) :=
  Prog.run_mapFail_of_error h

theorem run_answering_ofExcept {A : Type} {x : Except ApiError A} {a : A} (s : AppState)
    (h : x = .ok a) : (answering (.ofExcept x)).run s = (.ok a, s) := by
  apply run_answering_of_ok
  rw [Prog.run_ofExcept, h]

/-- The slice, where it is taken. -/
def slice (key : String) : PeerHandler String :=
  match keyPrefix key with
  | some start => pure start
  | none => .fail .panicked

/-- A hub at some URL that has channels. -/
structure FederatedPeer extends AlliancePeer where
  /-- `get_channels`, with a token. -/
  channels : String → Reply (List ChannelResponse)

/-! ## The cache -/

/-- The pair of the conflict clause. -/
def FederatedChannelRow.isOf (peerKey remoteId : String) (row : FederatedChannelRow) : Bool :=
  row.peerPublicKey = peerKey && row.remoteId = remoteId

/-- `SET name = ?, last_synced_at = ?`. -/
def FederatedChannelRow.sync (name : String) (now : Int) (row : FederatedChannelRow) :
    FederatedChannelRow :=
  { row with name := name, lastSyncedAt := now }

theorem FederatedChannelRow.id_sync (name : String) (now : Int) (row : FederatedChannelRow) :
    (row.sync name now).id = row.id := rfl

/-- `INSERT INTO federated_channels`, where the pair is free. A taken identifier is a
violation. -/
def insertFederatedChannel (row : FederatedChannelRow) (db : Db) : Except SqlError Db :=
  match db.federatedChannels.insert? row with
  | none => .error (.primaryKey "federated_channels.id")
  | some federatedChannels =>
      if db.peers.has row.peerPublicKey then
        .ok { db with federatedChannels := federatedChannels }
      else .error .foreignKey

/-- `ON CONFLICT(peer_public_key, remote_id) DO UPDATE`. -/
def syncFederatedChannel (row : FederatedChannelRow) (db : Db) : Db :=
  { db with
    federatedChannels := db.federatedChannels.update (·.isOf row.peerPublicKey row.remoteId)
      (·.sync row.name row.lastSyncedAt)
      (FederatedChannelRow.id_sync row.name row.lastSyncedAt) }

/-- The upsert. The constraint of its conflict clause is checked first. -/
def upsertFederatedChannel (row : FederatedChannelRow) (db : Db) : Except SqlError Db :=
  if db.federatedChannels.rows.any (·.isOf row.peerPublicKey row.remoteId) then
    .ok (syncFederatedChannel row db)
  else insertFederatedChannel row db

/-! ## Handlers -/

/-- `url.trim_end_matches('/')`. -/
def trimSlashes (url : String) : String :=
  String.ofList (url.toList.reverse.dropWhile (· = '/')).reverse

def badGateway (context message : String) : ApiError :=
  ⟨.badGateway, context ++ message⟩

/-- `add_peer`. The slice is the one of the log line, which comes after the writes. -/
def addPeer (lib : Crates) (network : String → FederatedPeer) (now : Int) (user url : String) :
    PeerHandler (StatusCode × PeerInfo) := do
  let perms ← answering (userPermissions user)
  answering (.ofExcept (perms.require admin))
  let peer := network (trimSlashes url)
  let info ← answering (.ofExcept ((getInfo peer.toRemote).mapError
    (badGateway "Cannot reach peer: ")))
  let identity ← .query AppState.hubIdentity
  let token ← answering (.ofExcept ((authenticate lib.ed25519 identity peer.toRemote).mapError
    (badGateway "Handshake failed: ")))
  answering (write (upsertPeer ⟨info.publicKey, info.name, trimSlashes url, now⟩))
  .exec (·.setPeerToken info.publicKey token)
  let _ ← slice info.publicKey
  pure (.created, ⟨info.publicKey, info.name, trimSlashes url, now⟩)

def getPeer (peerKey : String) : Handler PeerRow := do
  let peer ← fetch (·.peers.find? peerKey)
  .ofExcept (peer.elim (.error ⟨.notFound, "Peer not found"⟩) .ok)

def getPeerToken (peerKey : String) : Handler String := do
  let token ← .query (·.peerTokens peerKey)
  .ofExcept (token.elim (.error ⟨.unauthorized,
    "No active session with this peer. Re-add the peer to re-authenticate."⟩) .ok)

/-- The row in which a channel is cached. -/
def fedChannelRow (now : Int) (peerKey start : String) (ch : ChannelResponse) :
    FederatedChannelRow :=
  ⟨fedChannelId start ch.id, peerKey, ch.id, ch.name, ch.createdAt, now⟩

/-- What is answered of it. -/
def fedChannelResponse (peerKey start : String) (ch : ChannelResponse) :
    FederatedChannelResponse :=
  ⟨fedChannelId start ch.id, peerKey, ch.id, ch.name, ch.createdAt⟩

/-- The loop of `peer_channels`. -/
def cacheChannels (now : Int) (peerKey : String) :
    List ChannelResponse → PeerHandler (List FederatedChannelResponse)
  | [] => pure []
  | ch :: rest => do
      let start ← slice peerKey
      answering (execute (upsertFederatedChannel (fedChannelRow now peerKey start ch)))
      let result ← cacheChannels now peerKey rest
      pure (fedChannelResponse peerKey start ch :: result)

def peerChannels (network : String → FederatedPeer) (now : Int) (peerKey : String) :
    PeerHandler (List FederatedChannelResponse) := do
  let peer ← answering (getPeer peerKey)
  let token ← answering (getPeerToken peerKey)
  let channels ← answering (.ofExcept ((((network peer.url).channels token).context
    "Failed to fetch channels from peer" "Invalid channels response").mapError
      (badGateway "Failed to fetch channels: ")))
  cacheChannels now peerKey channels

/-- The row that a federated identifier stands for. -/
def fedChannel (fedChannelId : String) : Handler FederatedChannelRow := do
  let row ← fetch (·.federatedChannels.find? fedChannelId)
  .ofExcept (row.elim (.error ⟨.notFound, "Federated channel not found"⟩) .ok)

/-- A message as it is passed on. -/
def federatedMessage (message : MessageResponse) : FederatedMessageResponse :=
  ⟨message.id, message.id, message.sender, message.content, message.createdAt⟩

/-- Fetch the messages of a channel of a peer. -/
def relayMessages (network : String → FederatedPeer) (peerKey remoteId : String) :
    Handler (List FederatedMessageResponse) := do
  let peer ← getPeer peerKey
  let token ← getPeerToken peerKey
  let messages ← .ofExcept ((((network peer.url).channelMessages token remoteId).context
    "Failed to fetch messages from peer" "Invalid messages response").mapError
      (badGateway "Failed to fetch messages: "))
  pure (messages.map federatedMessage)

/-- `federated_messages`. The copies that it keeps of the messages are read by nobody. -/
def federatedMessages (network : String → FederatedPeer) (fedChannelId : String) :
    Handler (List FederatedMessageResponse) := do
  let row ← fedChannel fedChannelId
  relayMessages network row.peerPublicKey row.remoteId

/-- Post a message to a channel of a peer. -/
def relayMessage (network : String → FederatedPeer) (content peerKey remoteId : String) :
    Handler (StatusCode × FederatedMessageResponse) := do
  let peer ← getPeer peerKey
  let token ← getPeerToken peerKey
  let message ← .ofExcept ((((network peer.url).postMessage token remoteId content).context
    "Failed to send message to peer" "Invalid message response").mapError
      (badGateway "Failed to send message: "))
  pure (.created, federatedMessage message)

def sendFederatedMessage (network : String → FederatedPeer) (content fedChannelId : String) :
    Handler (StatusCode × FederatedMessageResponse) := do
  let row ← fedChannel fedChannelId
  relayMessage network content row.peerPublicKey row.remoteId

/-! ## Runs -/

/-- A request, with what the hubs of the network answer at the time. -/
inductive PeerCall where
  | addPeer (network : String → FederatedPeer) (now : Int) (user url : String)
  | peerChannels (network : String → FederatedPeer) (now : Int) (peerKey : String)

namespace PeerCall

/-- How the request is answered, and the state that it leaves. -/
def step (lib : Crates) : PeerCall → AppState → AppState
  | .addPeer network now user url, s => ((Hub.addPeer lib network now user url).run s).2
  | .peerChannels network now peerKey, s => ((Hub.peerChannels network now peerKey).run s).2

/-- The channels that the request has returned. -/
def returned : PeerCall → AppState → List FederatedChannelResponse
  | .addPeer _ _ _ _, _ => []
  | .peerChannels network now peerKey, s =>
      ((Hub.peerChannels network now peerKey).run s).1.toOption.getD []

def Panics (lib : Crates) : PeerCall → AppState → Prop
  | .addPeer network now user url, s =>
      ((Hub.addPeer lib network now user url).run s).1 = .error .panicked
  | .peerChannels network now peerKey, s =>
      ((Hub.peerChannels network now peerKey).run s).1 = .error .panicked

end PeerCall

/-- The hub without the channels that are cached for other peers. -/
def AppState.onlyChannelsOf (s : AppState) (peerKey : String) : AppState :=
  s.withDb { s.db with
    federatedChannels := s.db.federatedChannels.keep (·.peerPublicKey = peerKey) }

/-- The request is answered as if no channels were cached for other peers. -/
def PeerCall.Undisturbed : PeerCall → AppState → Prop
  | .addPeer _ _ _ _, _ => True
  | .peerChannels network now peerKey, s =>
      ((Hub.peerChannels network now peerKey).run s).1 =
        ((Hub.peerChannels network now peerKey).run (s.onlyChannelsOf peerKey)).1

/-- The identifier stands for the peer and the channel that it was returned with, wherever
messages are read or sent under it. -/
def FederatedChannelResponse.Resolves (s : AppState) (ch : FederatedChannelResponse) : Prop :=
  (∀ network, (federatedMessages network ch.id).run s =
    (relayMessages network ch.peerPublicKey ch.remoteId).run s) ∧
  ∀ network content, (sendFederatedMessage network content ch.id).run s =
    (relayMessage network content ch.peerPublicKey ch.remoteId).run s

/-! ## What is cached -/

/-- The identifier is cached for the channel of the peer. -/
def Db.Caches (db : Db) (id peerKey remoteId : String) : Prop :=
  ∃ row ∈ db.federatedChannels.rows, row.id = id ∧ row.peerPublicKey = peerKey ∧
    row.remoteId = remoteId

/-- Every identifier in the cache is the one of its peer and channel. -/
def Db.CacheKept (db : Db) : Prop :=
  ∀ id peerKey remoteId, db.Caches id peerKey remoteId →
    ∃ start, keyPrefix peerKey = some start ∧ id = fedChannelId start remoteId

/-- A channel with this identifier is cached for another peer whose key starts alike. -/
def Db.Clashes (db : Db) (peerKey remoteId : String) : Prop :=
  ∃ row ∈ db.federatedChannels.rows, row.peerPublicKey ≠ peerKey ∧ row.remoteId = remoteId ∧
    keyPrefix row.peerPublicKey = keyPrefix peerKey

section Cache

variable {db : Db} {peerKey start : String} {ch : ChannelResponse}

theorem caches_unique {id first second remoteId remoteId' : String}
    (h : db.Caches id first remoteId) (h' : db.Caches id second remoteId') :
    first = second ∧ remoteId = remoteId' := by
  obtain ⟨row, hrow, hid, rfl, rfl⟩ := h
  obtain ⟨row', hrow', hid', rfl, rfl⟩ := h'
  rw [db.federatedChannels.eq_of_key_eq hrow hrow' (hid.trans hid'.symm)]
  exact ⟨rfl, rfl⟩

theorem isOf_iff {remoteId : String} {row : FederatedChannelRow} :
    row.isOf peerKey remoteId = true ↔ row.peerPublicKey = peerKey ∧ row.remoteId = remoteId := by
  rw [FederatedChannelRow.isOf, Bool.and_eq_true, decide_eq_true_iff, decide_eq_true_iff]

theorem any_isOf_iff {remoteId : String} :
    db.federatedChannels.rows.any (·.isOf peerKey remoteId) = true ↔
      ∃ id, db.Caches id peerKey remoteId := by
  rw [List.any_eq_true]
  constructor
  · rintro ⟨row, hrow, hof⟩
    exact ⟨row.id, row, hrow, rfl, isOf_iff.mp hof⟩
  · rintro ⟨id, row, hrow, -, hof⟩
    exact ⟨row, hrow, isOf_iff.mpr hof⟩

/-- A clash is one of the identifier. -/
theorem clashes_iff (hkept : db.CacheKept) (hstart : keyPrefix peerKey = some start)
    {remoteId : String} :
    db.Clashes peerKey remoteId ↔
      ∃ other, other ≠ peerKey ∧ ∃ remoteId',
      db.Caches (fedChannelId start remoteId) other remoteId' := by
  constructor
  · rintro ⟨row, hrow, hne, rfl, hbegins⟩
    obtain ⟨start', hstart', hid⟩ := hkept _ _ _ ⟨row, hrow, rfl, rfl, rfl⟩
    have hsame : start' = start := Option.some.inj (hstart'.symm.trans (hbegins.trans hstart))
    exact ⟨_, hne, _, row, hrow, hsame ▸ hid, rfl, rfl⟩
  · rintro ⟨other, hne, remoteId', hcaches⟩
    obtain ⟨start', hstart', hid⟩ := hkept _ _ _ hcaches
    obtain ⟨rfl, rfl⟩ := fedChannelId_inj hstart hstart' hid
    obtain ⟨row, hrow, -, rfl, rfl⟩ := hcaches
    exact ⟨row, hrow, hne, rfl, hstart'.trans hstart.symm⟩

/-- What a write that is not refused adds to the cache. -/
structure Db.Adds (db db' : Db) (id peerKey remoteId : String) : Prop where
  peers : db'.peers = db.peers
  caches : ∀ id' peerKey' remoteId', db'.Caches id' peerKey' remoteId' ↔
    db.Caches id' peerKey' remoteId' ∨ (id' = id ∧ peerKey' = peerKey ∧ remoteId' = remoteId)

theorem caches_sync {now : Int} {id' peerKey' remoteId' remoteId name : String} :
    (∃ row ∈ (db.federatedChannels.update (·.isOf peerKey remoteId) (·.sync name now)
        (FederatedChannelRow.id_sync name now)).rows,
      row.id = id' ∧ row.peerPublicKey = peerKey' ∧ row.remoteId = remoteId') ↔
        db.Caches id' peerKey' remoteId' := by
  rw [Table.rows_update]
  simp only [List.mem_map, exists_exists_and_eq_and]
  have hsame : ∀ row : FederatedChannelRow,
      (if row.isOf peerKey remoteId then row.sync name now else row).id = row.id ∧
      (if row.isOf peerKey remoteId then row.sync name now else row).peerPublicKey =
        row.peerPublicKey ∧
      (if row.isOf peerKey remoteId then row.sync name now else row).remoteId = row.remoteId := by
    intro row
    split_ifs <;> exact ⟨rfl, rfl, rfl⟩
  simp only [fun row => (hsame row).1, fun row => (hsame row).2.1, fun row => (hsame row).2.2]
  rfl

/-- Without a clash the channel is cached. -/
theorem upsertFederatedChannel_of_free (now : Int) (hkept : db.CacheKept)
    (hstart : keyPrefix peerKey = some start) (hknown : db.peers.has peerKey = true)
    (hfree : ¬ db.Clashes peerKey ch.id) :
    ∃ db', upsertFederatedChannel (fedChannelRow now peerKey start ch) db = .ok db' ∧
      db.Adds db' (fedChannelId start ch.id) peerKey ch.id := by
  by_cases hany : db.federatedChannels.rows.any (·.isOf peerKey ch.id) = true
  · refine ⟨_, if_pos hany, rfl, fun id' peerKey' remoteId' => ?_⟩
    refine caches_sync.trans (or_iff_left_of_imp ?_).symm
    rintro ⟨rfl, rfl, rfl⟩
    obtain ⟨id, hcaches⟩ := any_isOf_iff.mp hany
    obtain ⟨start', hstart', rfl⟩ := hkept _ _ _ hcaches
    cases hstart.symm.trans hstart'
    exact hcaches
  · have hidfree : db.federatedChannels.has (fedChannelRow now peerKey start ch).id = false := by
      rw [Table.has_eq_false_iff]
      intro row hrow hid
      have hcaches : db.Caches (fedChannelId start ch.id) row.peerPublicKey row.remoteId :=
        ⟨row, hrow, hid, rfl, rfl⟩
      by_cases hown : row.peerPublicKey = peerKey
      · obtain ⟨start', hstart', hid'⟩ := hkept _ _ _ hcaches
        obtain ⟨-, hremote⟩ := fedChannelId_inj hstart hstart' hid'
        apply hany
        rw [any_isOf_iff, hremote]
        exact ⟨_, hown ▸ hcaches⟩
      · exact hfree ((clashes_iff hkept hstart).mpr ⟨_, hown, _, hcaches⟩)
    obtain ⟨table, hinsert, hrows⟩ := Table.insert?_of_free hidfree
    refine ⟨{ db with federatedChannels := table }, ?_, rfl, fun id' peerKey' remoteId' => ?_⟩
    · refine (if_neg hany).trans ?_
      rw [insertFederatedChannel, hinsert]
      exact if_pos hknown
    · unfold Db.Caches
      show (∃ row ∈ table.rows, _) ↔ _
      rw [hrows]
      simp only [List.mem_append, List.mem_singleton, or_and_right, exists_or, exists_eq_left]
      apply or_congr Iff.rfl
      constructor
      · rintro ⟨rfl, rfl, rfl⟩
        exact ⟨rfl, rfl, rfl⟩
      · rintro ⟨rfl, rfl, rfl⟩
        exact ⟨rfl, rfl, rfl⟩

/-- A clash is an error of the database. -/
theorem upsertFederatedChannel_of_clash (now : Int) (hkept : db.CacheKept)
    (hstart : keyPrefix peerKey = some start) (hclash : db.Clashes peerKey ch.id) :
    upsertFederatedChannel (fedChannelRow now peerKey start ch) db =
      .error (.primaryKey "federated_channels.id") := by
  obtain ⟨other, hne, remoteId', hcaches⟩ := (clashes_iff hkept hstart).mp hclash
  have hany : ¬ db.federatedChannels.rows.any (·.isOf peerKey ch.id) = true := by
    rw [any_isOf_iff]
    rintro ⟨id, hown⟩
    obtain ⟨start', hstart', rfl⟩ := hkept _ _ _ hown
    cases hstart.symm.trans hstart'
    exact hne (caches_unique hcaches hown).1
  obtain ⟨row, hrow, hid, -⟩ := hcaches
  have htaken : db.federatedChannels.insert? (fedChannelRow now peerKey start ch) = none :=
    Table.insert?_eq_none_iff.mpr ⟨row, hrow, hid⟩
  refine (if_neg hany).trans ?_
  rw [insertFederatedChannel, htaken]

theorem Db.Adds.kept {db' : Db} (h : db.Adds db' (fedChannelId start ch.id) peerKey ch.id)
    (hstart : keyPrefix peerKey = some start) (hkept : db.CacheKept) : db'.CacheKept := by
  intro id peerKey' remoteId hcaches
  rcases (h.caches id peerKey' remoteId).mp hcaches with hold | ⟨rfl, rfl, rfl⟩
  · exact hkept id peerKey' remoteId hold
  · exact ⟨start, hstart, rfl⟩

/-- A channel of the peer does not clash with its others. -/
theorem Db.Adds.clashes_iff {db' : Db} {id remoteId remoteId' : String}
    (h : db.Adds db' id peerKey remoteId) :
    db'.Clashes peerKey remoteId' ↔ db.Clashes peerKey remoteId' := by
  have hrows : ∀ db : Db, db.Clashes peerKey remoteId' ↔
      ∃ id other, db.Caches id other remoteId' ∧ other ≠ peerKey ∧
        keyPrefix other = keyPrefix peerKey := by
    intro db
    constructor
    · rintro ⟨row, hrow, hne, hremote, hprefix⟩
      exact ⟨row.id, _, ⟨row, hrow, rfl, rfl, hremote⟩, hne, hprefix⟩
    · rintro ⟨id, _, ⟨row, hrow, -, rfl, hremote⟩, hne, hprefix⟩
      exact ⟨row, hrow, hne, hremote, hprefix⟩
  rw [hrows, hrows]
  constructor
  · rintro ⟨id', other, hcaches, hne, hprefix⟩
    rcases (h.caches id' other remoteId').mp hcaches with hold | ⟨-, rfl, -⟩
    · exact ⟨id', other, hold, hne, hprefix⟩
    · exact absurd rfl hne
  · rintro ⟨id', other, hcaches, hne, hprefix⟩
    exact ⟨id', other, (h.caches id' other remoteId').mpr (.inl hcaches), hne, hprefix⟩

end Cache

/-! ## The loop over the channels -/

section Loop

variable {s : AppState} {peerKey start : String} {channels : List ChannelResponse} (now : Int)

/-- What is cached stays cached. -/
def Db.CachesMore (db db' : Db) : Prop :=
  ∀ id peerKey remoteId, db.Caches id peerKey remoteId → db'.Caches id peerKey remoteId

theorem run_slice_of_some (hstart : keyPrefix peerKey = some start) (s : AppState) :
    (slice peerKey).run s = (.ok start, s) := by
  rw [slice, hstart]
  rfl

theorem run_slice_of_none (hnone : keyPrefix peerKey = none) (s : AppState) :
    (slice peerKey).run s = (.error .panicked, s) := by
  rw [slice, hnone]
  rfl

/-- Without clashes all channels are cached and returned. -/
theorem run_cacheChannels_of_free (hkept : s.db.CacheKept) (hstart : keyPrefix peerKey = some start)
    (hknown : s.db.peers.has peerKey = true)
    (hfree : ∀ ch ∈ channels, ¬ s.db.Clashes peerKey ch.id) :
    ∃ db, (cacheChannels now peerKey channels).run s =
        (.ok (channels.map (fedChannelResponse peerKey start)), s.withDb db) ∧
      db.CacheKept ∧ s.db.CachesMore db ∧
      ∀ ch ∈ channels, db.Caches (fedChannelId start ch.id) peerKey ch.id := by
  induction channels generalizing s with
  | nil => exact ⟨s.db, rfl, hkept, fun _ _ _ h => h, by simp⟩
  | cons ch rest ih =>
      obtain ⟨db, hupsert, hadds⟩ := upsertFederatedChannel_of_free now hkept hstart hknown
        (hfree ch List.mem_cons_self)
      have hnext : ∀ other ∈ rest, ¬ db.Clashes peerKey other.id := by
        intro other hother hclash
        exact hfree other (List.mem_cons_of_mem ch hother) (hadds.clashes_iff.mp hclash)
      obtain ⟨db', hrun, hkept', hmore, hall⟩ :=
        @ih (s.withDb db) (hadds.kept hstart hkept) (hadds.peers.symm ▸ hknown) hnext
      refine ⟨db', ?_, hkept', fun id key remoteId h => ?_, fun other hother => ?_⟩
      · rw [cacheChannels, Prog.run_bind_of_ok (run_slice_of_some hstart s),
          Prog.run_bind_of_ok (run_answering_of_ok (run_execute_of_ok hupsert)),
          Prog.run_bind_of_ok hrun]
        rfl
      · exact hmore id key remoteId ((hadds.caches id key remoteId).mpr (.inl h))
      · rcases List.mem_cons.mp hother with rfl | hother
        · exact hmore _ _ _ ((hadds.caches _ _ _).mpr (.inr ⟨rfl, rfl, rfl⟩))
        · exact hall other hother

/-- A clash ends the loop with an error of the database. -/
theorem run_cacheChannels_of_clash (hkept : s.db.CacheKept)
    (hstart : keyPrefix peerKey = some start) (hknown : s.db.peers.has peerKey = true)
    (hclash : ∃ ch ∈ channels, s.db.Clashes peerKey ch.id) :
    ∃ db, (cacheChannels now peerKey channels).run s =
        (.error (.rejected (dbError (.primaryKey "federated_channels.id"))), s.withDb db) ∧
      db.CacheKept ∧ s.db.CachesMore db := by
  induction channels generalizing s with
  | nil => simp at hclash
  | cons ch rest ih =>
      by_cases hfirst : s.db.Clashes peerKey ch.id
      · refine ⟨s.db, ?_, hkept, fun _ _ _ h => h⟩
        have hupsert := upsertFederatedChannel_of_clash now hkept hstart hfirst
        rw [cacheChannels, Prog.run_bind_of_ok (run_slice_of_some hstart s),
          Prog.run_bind_of_error (run_answering_of_error (run_execute_of_error hupsert)),
          withDb_self]
      · obtain ⟨db, hupsert, hadds⟩ := upsertFederatedChannel_of_free now hkept hstart
          hknown hfirst
        have hnext : ∃ other ∈ rest, db.Clashes peerKey other.id := by
          obtain ⟨other, hother, hother'⟩ := hclash
          rcases List.mem_cons.mp hother with rfl | hrest
          · exact absurd hother' hfirst
          · exact ⟨other, hrest, hadds.clashes_iff.mpr hother'⟩
        obtain ⟨db', hrun, hkept', hmore⟩ :=
          @ih (s.withDb db) (hadds.kept hstart hkept) (hadds.peers.symm ▸ hknown) hnext
        refine ⟨db', ?_, hkept', fun id key remoteId h => ?_⟩
        · rw [cacheChannels, Prog.run_bind_of_ok (run_slice_of_some hstart s),
            Prog.run_bind_of_ok (run_answering_of_ok (run_execute_of_ok hupsert)),
            Prog.run_bind_of_error hrun]
          rfl
        · exact hmore id key remoteId ((hadds.caches id key remoteId).mpr (.inl h))

/-- A key that cannot be sliced ends it with a panic, unless there is nothing to cache. -/
theorem run_cacheChannels_of_short (hnone : keyPrefix peerKey = none) :
    (cacheChannels now peerKey channels).run s =
      (if channels = [] then .ok [] else .error .panicked, s) := by
  cases channels with
  | nil => rfl
  | cons ch rest =>
      rw [cacheChannels, Prog.run_bind_of_error (run_slice_of_none hnone s), if_neg (by simp)]

end Loop

/-! ## What a request does -/

section Requests

variable {s : AppState} {network : String → FederatedPeer} {peerKey : String} (now : Int)

/-- What the peer answers to `peer_channels`, if the hub gets so far as to ask it. -/
def AppState.channelsOf (s : AppState) (network : String → FederatedPeer) (peerKey : String) :
    Option (List ChannelResponse) :=
  (s.db.peers.find? peerKey).bind fun peer =>
    (s.peerTokens peerKey).bind fun token =>
      match (network peer.url).channels token with
      | .json channels => some channels
      | _ => none

theorem run_getPeer_of_some {peer : PeerRow} (h : s.db.peers.find? peerKey = some peer) :
    (getPeer peerKey).run s = (.ok peer, s) := by
  rw [getPeer, Prog.run_bind_of_ok (run_fetch _ s), h]
  rfl

theorem run_getPeerToken_of_some {token : String} (h : s.peerTokens peerKey = some token) :
    (getPeerToken peerKey).run s = (.ok token, s) := by
  rw [getPeerToken, Prog.run_bind_of_ok (Prog.run_query _ s), h]
  rfl

theorem run_peerChannels_of_some {channels : List ChannelResponse}
    (h : s.channelsOf network peerKey = some channels) :
    (peerChannels network now peerKey).run s = (cacheChannels now peerKey channels).run s := by
  obtain ⟨peer, hpeer, h⟩ := Option.bind_eq_some_iff.mp h
  obtain ⟨token, htoken, h⟩ := Option.bind_eq_some_iff.mp h
  rw [peerChannels, Prog.run_bind_of_ok (run_answering_of_ok (run_getPeer_of_some hpeer)),
    Prog.run_bind_of_ok (run_answering_of_ok (run_getPeerToken_of_some htoken))]
  cases hanswer : (network peer.url).channels token with
  | unreachable => simp [hanswer] at h
  | invalid => simp [hanswer] at h
  | json answered =>
      rw [hanswer] at h
      cases h
      rfl

/-- A request that does not get that far is rejected, whatever is cached. -/
theorem run_peerChannels_of_none (h : s.channelsOf network peerKey = none) :
    ∃ e, ∀ t : AppState, t.db.peers = s.db.peers → t.peerTokens = s.peerTokens →
      (peerChannels network now peerKey).run t = (.error (.rejected e), t) := by
  cases hpeer : s.db.peers.find? peerKey with
  | none =>
      refine ⟨⟨.notFound, "Peer not found"⟩, fun t hpeers _ => ?_⟩
      have hget : (getPeer peerKey).run t = (.error ⟨.notFound, "Peer not found"⟩, t) := by
        rw [getPeer, Prog.run_bind_of_ok (run_fetch _ t), hpeers, hpeer]
        rfl
      exact Prog.run_bind_of_error (run_answering_of_error hget)
  | some peer =>
      rw [AppState.channelsOf, hpeer, Option.bind_some] at h
      cases htoken : s.peerTokens peerKey with
      | none =>
          refine ⟨⟨.unauthorized,
            "No active session with this peer. Re-add the peer to re-authenticate."⟩,
            fun t hpeers htokens => ?_⟩
          have hget : (getPeerToken peerKey).run t = (.error ⟨.unauthorized,
              "No active session with this peer. Re-add the peer to re-authenticate."⟩, t) := by
            rw [getPeerToken, Prog.run_bind_of_ok (Prog.run_query _ t), htokens, htoken]
            rfl
          rw [peerChannels, Prog.run_bind_of_ok (run_answering_of_ok
            (run_getPeer_of_some (hpeers.symm ▸ hpeer)))]
          exact Prog.run_bind_of_error (run_answering_of_error hget)
      | some token =>
          rw [htoken, Option.bind_some] at h
          have hfails : ∃ e, (((network peer.url).channels token).context
              "Failed to fetch channels from peer" "Invalid channels response") = .error e := by
            cases hanswer : (network peer.url).channels token with
            | unreachable => exact ⟨_, rfl⟩
            | invalid => exact ⟨_, rfl⟩
            | json channels => simp [hanswer] at h
          obtain ⟨e, hfails⟩ := hfails
          refine ⟨badGateway "Failed to fetch channels: " e, fun t hpeers htokens => ?_⟩
          rw [peerChannels, Prog.run_bind_of_ok (run_answering_of_ok
            (run_getPeer_of_some (hpeers.symm ▸ hpeer))), Prog.run_bind_of_ok
              (run_answering_of_ok (run_getPeerToken_of_some (htokens.symm ▸ htoken))), hfails]
          rfl

/-- The peer that `add_peer` finds at the URL, if the hub gets so far as to store it. -/
def AppState.metBy (lib : Crates) (s : AppState) (network : String → FederatedPeer)
    (user url : String) : Option (InfoResponse × String) :=
  match (s.db.userPermissions user).require admin, getInfo (network (trimSlashes url)).toRemote,
    authenticate lib.ed25519 s.hubIdentity (network (trimSlashes url)).toRemote with
  | .ok (), .ok info, .ok token => some (info, token)
  | _, _, _ => none

theorem run_addPeer_of_none {lib : Crates} {user url : String}
    (h : s.metBy lib network user url = none) :
    ∃ e, (addPeer lib network now user url).run s = (.error (.rejected e), s) := by
  rw [addPeer, Prog.run_bind_of_ok (run_answering_of_ok (run_userPermissions user s))]
  cases hperms : (s.db.userPermissions user).require admin with
  | error e => exact ⟨e, rfl⟩
  | ok _ =>
      cases hinfo : getInfo (network (trimSlashes url)).toRemote with
      | error e =>
          refine ⟨badGateway "Cannot reach peer: " e, ?_⟩
          simp only [hinfo]
          rfl
      | ok info =>
          cases htoken : authenticate lib.ed25519 s.hubIdentity
              (network (trimSlashes url)).toRemote with
          | error e =>
              refine ⟨badGateway "Handshake failed: " e, ?_⟩
              simp only [hinfo]
              show (Prog.bind (answering (.ofExcept ((authenticate lib.ed25519 s.hubIdentity
                (network (trimSlashes url)).toRemote).mapError _))) _).run s = _
              rw [htoken]
              rfl
          | ok token => simp [AppState.metBy, hperms, hinfo, htoken] at h

theorem run_addPeer_of_some {lib : Crates} {user url token : String} {info : InfoResponse}
    (h : s.metBy lib network user url = some (info, token)) :
    ∃ t : AppState, t.db.federatedChannels = s.db.federatedChannels ∧
      (addPeer lib network now user url).run s =
        ((keyPrefix info.publicKey).elim (.error .panicked) fun _ =>
          .ok (.created, ⟨info.publicKey, info.name, trimSlashes url, now⟩), t) := by
  unfold AppState.metBy at h
  split at h
  · next hperms hinfo htoken =>
      cases h
      have hinfo' := run_answering_ofExcept s (congrArg
        (Except.mapError (badGateway "Cannot reach peer: ")) hinfo)
      have htoken' := run_answering_ofExcept s (congrArg
        (Except.mapError (badGateway "Handshake failed: ")) htoken)
      have hlookup := run_answering_of_ok (run_userPermissions user s)
      have hstored := run_answering_of_ok
        (run_write (upsertPeer ⟨info.publicKey, info.name, trimSlashes url, now⟩) s)
      refine ⟨(s.withDb (upsertPeer ⟨info.publicKey, info.name, trimSlashes url, now⟩
        s.db)).setPeerToken info.publicKey token, rfl, ?_⟩
      rw [addPeer, Prog.run_bind_of_ok hlookup,
        Prog.run_bind_of_ok (run_answering_ofExcept s hperms),
        Prog.run_bind_of_ok hinfo', Prog.run_bind_of_ok (Prog.run_query _ s),
        Prog.run_bind_of_ok htoken', Prog.run_bind_of_ok hstored,
        Prog.run_bind_of_ok (Prog.run_exec _ _)]
      cases hstart : keyPrefix info.publicKey with
      | none => exact Prog.run_bind_of_error (run_slice_of_none hstart _)
      | some start => exact Prog.run_bind_of_ok (run_slice_of_some hstart _)
  · cases h

theorem known_of_channelsOf {channels : List ChannelResponse}
    (h : s.channelsOf network peerKey = some channels) : s.db.peers.has peerKey = true := by
  obtain ⟨peer, hpeer, -⟩ := Option.bind_eq_some_iff.mp h
  exact Table.has_of_find? hpeer

theorem not_clashes_onlyChannelsOf {remoteId : String} :
    ¬ (s.onlyChannelsOf peerKey).db.Clashes peerKey remoteId := by
  rintro ⟨row, hrow, hne, -⟩
  exact hne (of_decide_eq_true (List.mem_filter.mp hrow).2)

theorem cacheKept_onlyChannelsOf (h : s.db.CacheKept) :
    (s.onlyChannelsOf peerKey).db.CacheKept := by
  rintro id key remoteId ⟨row, hrow, hrest⟩
  exact h id key remoteId ⟨row, (List.mem_filter.mp hrow).1, hrest⟩

end Requests

namespace PeerCall

/-- The key that a new peer reports can be sliced; and so can that of a peer that has
channels, none of which has the identifier of a channel that is cached for another peer
with the same start of the key. -/
def Fits (lib : Crates) : PeerCall → AppState → Prop
  | .addPeer network _ user url, s => ∀ met ∈ s.metBy lib network user url,
      keyPrefix met.1.publicKey ≠ none
  | .peerChannels network _ peerKey, s => ∀ channels ∈ s.channelsOf network peerKey,
      ∀ ch ∈ channels, keyPrefix peerKey ≠ none ∧ ¬ s.db.Clashes peerKey ch.id

variable {lib : Crates} {s : AppState}

/-- What a request keeps: identifiers stay what they are, and what it returns is cached. -/
theorem kept_step (call : PeerCall) (hkept : s.db.CacheKept) :
    (call.step lib s).db.CacheKept ∧ s.db.CachesMore (call.step lib s).db ∧
      ∀ ch ∈ call.returned s,
        (call.step lib s).db.Caches ch.id ch.peerPublicKey ch.remoteId := by
  cases call with
  | addPeer network now user url =>
      have hsame : (step lib (.addPeer network now user url) s).db.federatedChannels =
          s.db.federatedChannels := by
        show ((Hub.addPeer lib network now user url).run s).2.db.federatedChannels = _
        cases hmet : s.metBy lib network user url with
        | none =>
            obtain ⟨e, hrun⟩ := run_addPeer_of_none now hmet
            rw [hrun]
        | some met =>
            obtain ⟨t, hcache, hrun⟩ := run_addPeer_of_some now hmet
            rw [hrun]
            exact hcache
      unfold Db.CacheKept Db.CachesMore Db.Caches
      rw [hsame]
      exact ⟨hkept, fun _ _ _ h => h, fun ch hch => by cases hch⟩
  | peerChannels network now peerKey =>
      show ((Hub.peerChannels network now peerKey).run s).2.db.CacheKept ∧
        s.db.CachesMore ((Hub.peerChannels network now peerKey).run s).2.db ∧
          ∀ ch ∈ ((Hub.peerChannels network now peerKey).run s).1.toOption.getD [],
            ((Hub.peerChannels network now peerKey).run s).2.db.Caches ch.id ch.peerPublicKey
              ch.remoteId
      cases hasked : s.channelsOf network peerKey with
      | none =>
          obtain ⟨e, hrun⟩ := run_peerChannels_of_none now hasked
          rw [hrun s rfl rfl]
          exact ⟨hkept, fun _ _ _ h => h, fun ch hch => by cases hch⟩
      | some channels =>
          rw [run_peerChannels_of_some now hasked]
          cases hstart : keyPrefix peerKey with
          | none =>
              rw [run_cacheChannels_of_short now hstart]
              refine ⟨hkept, fun _ _ _ h => h, fun ch hch => ?_⟩
              dsimp only at hch
              split_ifs at hch <;> cases hch
          | some start =>
              by_cases hclash : ∃ ch ∈ channels, s.db.Clashes peerKey ch.id
              · obtain ⟨db, hrun, hkept', hmore⟩ := run_cacheChannels_of_clash now hkept
                  hstart (known_of_channelsOf hasked) hclash
                rw [hrun]
                exact ⟨hkept', hmore, fun ch hch => by cases hch⟩
              · push Not at hclash
                obtain ⟨db, hrun, hkept', hmore, hall⟩ := run_cacheChannels_of_free now
                  hkept hstart (known_of_channelsOf hasked) hclash
                rw [hrun]
                refine ⟨hkept', hmore, fun ch hch => ?_⟩
                obtain ⟨remote, hremote, rfl⟩ := List.mem_map.mp hch
                exact hall remote hremote

/-- A request neither panics nor is disturbed exactly if it fits. -/
theorem fits_iff (call : PeerCall) (hkept : s.db.CacheKept) :
    (¬ call.Panics lib s ∧ call.Undisturbed s) ↔ call.Fits lib s := by
  cases call with
  | addPeer network now user url =>
      show (¬ ((Hub.addPeer lib network now user url).run s).1 = .error .panicked ∧ True) ↔
        ∀ met ∈ s.metBy lib network user url, keyPrefix met.1.publicKey ≠ none
      rw [and_true]
      cases hmet : s.metBy lib network user url with
      | none =>
          obtain ⟨e, hrun⟩ := run_addPeer_of_none now hmet
          rw [hrun]
          simp
      | some met =>
          obtain ⟨info, token⟩ := met
          obtain ⟨t, -, hrun⟩ := run_addPeer_of_some now hmet
          rw [hrun]
          cases hstart : keyPrefix info.publicKey with
          | none =>
              refine iff_of_false (fun h => h rfl) fun hfits => ?_
              exact hfits (info, token) rfl hstart
          | some start =>
              refine iff_of_true (by simp) fun met' hsame => ?_
              cases hsame
              simp [hstart]
  | peerChannels network now peerKey =>
      show (¬ ((Hub.peerChannels network now peerKey).run s).1 = .error .panicked ∧
        ((Hub.peerChannels network now peerKey).run s).1 =
          ((Hub.peerChannels network now peerKey).run (s.onlyChannelsOf peerKey)).1) ↔
        ∀ channels ∈ s.channelsOf network peerKey, ∀ ch ∈ channels,
          keyPrefix peerKey ≠ none ∧ ¬ s.db.Clashes peerKey ch.id
      cases hasked : s.channelsOf network peerKey with
      | none =>
          obtain ⟨e, hrun⟩ := run_peerChannels_of_none now hasked
          rw [hrun s rfl rfl, hrun (s.onlyChannelsOf peerKey) rfl rfl]
          simp
      | some channels =>
          have hasked' : (s.onlyChannelsOf peerKey).channelsOf network peerKey = some channels :=
            hasked
          rw [run_peerChannels_of_some now hasked, run_peerChannels_of_some now hasked']
          cases hstart : keyPrefix peerKey with
          | none =>
              rw [run_cacheChannels_of_short now hstart, run_cacheChannels_of_short now hstart]
              cases channels with
              | nil => simp
              | cons ch rest =>
                  rw [if_neg (List.cons_ne_nil ch rest)]
                  refine iff_of_false (fun h => h.1 rfl) fun hfits => ?_
                  exact (hfits _ rfl ch List.mem_cons_self).1 rfl
          | some start =>
              obtain ⟨db, hown, -⟩ := run_cacheChannels_of_free now
                (cacheKept_onlyChannelsOf hkept) hstart (known_of_channelsOf hasked')
                fun ch (_ : ch ∈ channels) => not_clashes_onlyChannelsOf
              rw [hown]
              by_cases hclash : ∃ ch ∈ channels, s.db.Clashes peerKey ch.id
              · obtain ⟨db', hrun, -⟩ := run_cacheChannels_of_clash now hkept
                  hstart (known_of_channelsOf hasked) hclash
                rw [hrun]
                obtain ⟨ch, hch, hclash⟩ := hclash
                refine iff_of_false (by simp) fun hfits => ?_
                exact (hfits channels rfl ch hch).2 hclash
              · push Not at hclash
                obtain ⟨db', hrun, -⟩ := run_cacheChannels_of_free now
                  hkept hstart (known_of_channelsOf hasked) hclash
                rw [hrun]
                refine iff_of_true (by simp) fun answered hanswered ch hch => ?_
                cases hanswered
                exact ⟨by simp, hclash ch hch⟩

end PeerCall

/-- What is cached resolves to what it is cached for. -/
theorem resolves_of_caches {s : AppState} {ch : FederatedChannelResponse}
    (h : s.db.Caches ch.id ch.peerPublicKey ch.remoteId) : ch.Resolves s := by
  obtain ⟨row, hrow, hid, hpeer, hremote⟩ := h
  have hfind : s.db.federatedChannels.find? ch.id = some row :=
    Table.find?_eq_some_iff.mpr ⟨hrow, hid⟩
  have hrun : (fedChannel ch.id).run s = (.ok row, s) := by
    rw [fedChannel, Prog.run_bind_of_ok (run_fetch _ s), hfind]
    rfl
  constructor
  · intro network
    rw [federatedMessages, Prog.run_bind_of_ok hrun, hpeer, hremote]
  · intro network content
    rw [sendFederatedMessage, Prog.run_bind_of_ok hrun, hpeer, hremote]

theorem cacheKept_of_empty {s : AppState} (hempty : s.db.federatedChannels = ∅) :
    s.db.CacheKept := by
  rintro id peerKey remoteId ⟨row, hrow, -⟩
  rw [hempty] at hrow
  cases hrow

theorem along_fits_iff {lib : Crates} {s : AppState} (hempty : s.db.federatedChannels = ∅)
    {calls : List PeerCall} :
    Along (PeerCall.step lib) (fun call t => ¬ call.Panics lib t ∧ call.Undisturbed t) calls s ↔
      Along (PeerCall.step lib) (PeerCall.Fits lib) calls s :=
  along_congr (fun t => t.db.CacheKept) (fun call _ h => (call.kept_step h).1)
    (fun call _ h => call.fits_iff h) (cacheKept_of_empty hempty)

/-- In every run that starts without cached channels, whatever the other hubs answer: the
identifiers resolve and are distinct, no request panics and none is disturbed by the
channels of another peer, exactly if all requests fit. -/
theorem federatedIds_iff (lib : Crates) (s : AppState) (hempty : s.db.federatedChannels = ∅)
    (calls : List PeerCall) :
    (Along (PeerCall.step lib) (fun call t => ¬ call.Panics lib t ∧ call.Undisturbed t) calls s ∧
      (∀ ch ∈ logAll (PeerCall.step lib) PeerCall.returned calls s,
        ch.Resolves (runAll (PeerCall.step lib) calls s)) ∧
      ∀ ch ∈ logAll (PeerCall.step lib) PeerCall.returned calls s,
        ∀ ch' ∈ logAll (PeerCall.step lib) PeerCall.returned calls s, ch.id = ch'.id →
          ch.peerPublicKey = ch'.peerPublicKey ∧ ch.remoteId = ch'.remoteId) ↔
      Along (PeerCall.step lib) (PeerCall.Fits lib) calls s := by
  have hkept := cacheKept_of_empty hempty
  have hcached : ∀ ch ∈ logAll (PeerCall.step lib) PeerCall.returned calls s,
      (runAll (PeerCall.step lib) calls s).db.Caches ch.id ch.peerPublicKey ch.remoteId := by
    have hany : Along (PeerCall.step lib) (fun _ _ => True) calls s :=
      along_iff_split.mpr fun _ _ _ _ => trivial
    intro ch hch
    exact hany.logged (fun t => t.db.CacheKept)
      (fun ch t => t.db.Caches ch.id ch.peerPublicKey ch.remoteId)
      (fun call t _ h => (call.kept_step h).1)
      (fun call t ch _ h hcaches => (call.kept_step h).2.1 _ _ _ hcaches)
      (fun call t _ h => (call.kept_step h).2.2) hkept hch
  rw [along_fits_iff hempty]
  refine and_iff_left ⟨fun ch hch => resolves_of_caches (hcached ch hch), ?_⟩
  intro ch hch ch' hch' hid
  exact caches_unique (hcached ch hch) (hid ▸ hcached ch' hch')

/-! ## Peers of one network -/

instance decidableClashes (db : Db) (peerKey remoteId : String) :
    Decidable (db.Clashes peerKey remoteId) :=
  inferInstanceAs (Decidable (∃ row ∈ db.federatedChannels.rows, _))

instance decidableFits (lib : Crates) (s : AppState) :
    ∀ call : PeerCall, Decidable (call.Fits lib s)
  | .addPeer network _ user url =>
      inferInstanceAs (Decidable (∀ met ∈ s.metBy lib network user url, _))
  | .peerChannels network _ peerKey =>
      inferInstanceAs (Decidable (∀ channels ∈ s.channelsOf network peerKey, ∀ ch ∈ channels, _))

/-- A hub that lets everybody in and has one channel. In the networks below a hub's URL is
its key. -/
def generalPeer (publicKey : String) : FederatedPeer where
  info := .json ⟨"peer", publicKey⟩
  challenge := fun _ => .json ""
  verify := fun _ => .json ⟨"token", "member"⟩
  sharedChannels := fun _ _ => .json []
  postMessage := fun _ _ _ => .unreachable
  channelMessages := fun _ _ => .json []
  channels := fun _ => .json
    [⟨"general", "General", "owner", none, false, 0, none, none, none, none, 0, .text⟩]

/-- A hub and its owner. -/
def peeringHub : AppState where
  db := { Db.migrated with
    users := .single ⟨"owner", 0, 0, .approved, none, false, 0, none, .none, none⟩
    userRoles := .single ⟨"owner", "builtin-owner", 0⟩ }

/-- Two hubs are added and their channels are fetched. -/
def twoPeers (first second : String) : List PeerCall :=
  [.addPeer generalPeer 1 "owner" first, .addPeer generalPeer 2 "owner" second,
    .peerChannels generalPeer 3 first, .peerChannels generalPeer 4 second]

theorem federatedIds_apart :
    peeringHub.db.federatedChannels = ∅ ∧
      Along (PeerCall.step (.ofRecorded []))
        (fun call t => ¬ call.Panics (.ofRecorded []) t ∧ call.Undisturbed t)
        (twoPeers "0123456789abcdef" "fedcba9876543210") peeringHub :=
  ⟨rfl, ((federatedIds_iff (.ofRecorded []) peeringHub rfl
    (twoPeers "0123456789abcdef" "fedcba9876543210")).mpr (by decide +kernel)).1⟩

/-- A key of three characters, and two keys with one start. -/
theorem not_federatedIds_alike :
    ¬ Along (PeerCall.step (.ofRecorded []))
        (fun call t => ¬ call.Panics (.ofRecorded []) t ∧ call.Undisturbed t)
        [.addPeer generalPeer 1 "owner" "abc"] peeringHub ∧
      ¬ Along (PeerCall.step (.ofRecorded []))
        (fun call t => ¬ call.Panics (.ofRecorded []) t ∧ call.Undisturbed t)
        (twoPeers "0123456789abcdef0" "0123456789abcdef1") peeringHub := by
  have hempty : peeringHub.db.federatedChannels = ∅ := rfl
  rw [along_fits_iff hempty, along_fits_iff hempty]
  decide +kernel

end Voxply.Hub
