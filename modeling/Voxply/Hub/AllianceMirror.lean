/-
# Alliances mirrored by their members

Every member of an alliance keeps a table of all members.  A hub enters itself under the
URL `self`, and a hub that joins copies the table of the hub that has invited it: its own
row is entered as `self`, the others as they are listed.  The inviter lists itself as
`self` as well.
-/

import Voxply.Hub.LoginSignature
import Voxply.Math.Trace
import Mathlib.Logic.Function.Basic

namespace Voxply.Hub

open Voxply.Math Voxply.Identity

/-! ## Answers -/

structure AllianceResponse where
  id : String
  name : String
  createdBy : String
  createdAt : Int
  deriving DecidableEq

structure AllianceMemberInfo where
  hubPublicKey : String
  hubName : String
  hubUrl : String
  joinedAt : Int
  deriving DecidableEq

structure AllianceDetailResponse where
  id : String
  name : String
  createdBy : String
  createdAt : Int
  members : List AllianceMemberInfo
  deriving DecidableEq

/-! ## Creating and reading an alliance -/

/-- `INSERT INTO alliances`. -/
def insertAlliance (row : AllianceRow) (db : Db) : Except SqlError Db :=
  match db.alliances.insert? row with
  | none => .error (.primaryKey "alliances.id")
  | some alliances => .ok { db with alliances := alliances }

/-- `INSERT INTO alliance_members`. -/
def insertAllianceMember (row : AllianceMemberRow) (db : Db) : Except SqlError Db :=
  match db.allianceMembers.insert? row with
  | none =>
      .error (.primaryKey "alliance_members.alliance_id, alliance_members.hub_public_key")
  | some allianceMembers =>
      if db.alliances.has row.allianceId then .ok { db with allianceMembers := allianceMembers }
      else .error .foreignKey

/-- `create_alliance`. The name of the hub is the one it was started with, unless an admin
has renamed it. -/
def createAlliance (lib : Crates) (id : String) (now : Int) (hubName user name : String) :
    Handler (StatusCode × AllianceResponse) := do
  let perms ← userPermissions user
  .ofExcept (perms.require admin)
  execute (insertAlliance ⟨id, name, user, now⟩)
  let hubName ← fetch fun db => (db.setting "hub_name").getD hubName
  let publicKeyHex ← .query (·.publicKeyHex lib.ed25519)
  execute (insertAllianceMember ⟨id, publicKeyHex, hubName, "self", now⟩)
  pure (.created, ⟨id, name, user, now⟩)

def AllianceMemberRow.info (row : AllianceMemberRow) : AllianceMemberInfo :=
  ⟨row.hubPublicKey, row.hubName, row.hubUrl, row.joinedAt⟩

def Db.membersOfAlliance (db : Db) (allianceId : String) : List AllianceMemberRow :=
  db.allianceMembers.rows.filter (·.allianceId = allianceId)

def getAlliance (allianceId : String) : Handler AllianceDetailResponse := do
  let alliance ← fetch (·.alliances.find? allianceId)
  let alliance ← .ofExcept (alliance.elim (.error ⟨.notFound, "Alliance not found"⟩) .ok)
  let members ← fetch (·.membersOfAlliance allianceId)
  pure ⟨alliance.id, alliance.name, alliance.createdBy, alliance.createdAt,
    members.map AllianceMemberRow.info⟩

/-! ## Joining -/

/-- What the inviter answers: to the login, to the request to join and to the request for
the details. -/
structure InviterAnswers where
  login : Except String String
  join : Except String StatusCode
  detail : Except String AllianceDetailResponse

/-- `StatusCode::is_success`. -/
def StatusCode.isSuccess : StatusCode → Bool
  | .ok | .created | .noContent => true
  | _ => false

def unreachableInviter : ApiError :=
  ⟨.badGateway, "Could not reach the inviting hub. It may be offline or its URL has changed."⟩

/-- What is made of a request to join that is turned down. -/
def declinedJoin (status : StatusCode) : ApiError where
  status := status
  message :=
    if status = .forbidden ∨ status = .unauthorized then
      "The invite has expired or has already been used."
    else if status = .conflict then "This hub is already a member of the alliance."
    else "The inviting hub declined the join request. The invite may be invalid or expired."

/-- `INSERT OR IGNORE INTO alliances`. -/
def insertAllianceOrIgnore (row : AllianceRow) (db : Db) : Db :=
  { db with alliances := db.alliances.insertOrIgnore row }

/-- The row in which a hub with the given key keeps a member that is listed to it. -/
def AllianceMemberInfo.mirror (allianceId ownKey : String) (m : AllianceMemberInfo) :
    AllianceMemberRow where
  allianceId := allianceId
  hubPublicKey := m.hubPublicKey
  hubName := m.hubName
  hubUrl := if m.hubPublicKey = ownKey then "self" else m.hubUrl
  joinedAt := m.joinedAt

/-- `SELECT hub_public_key FROM alliance_members WHERE alliance_id = ? AND hub_url = ?`. -/
def Db.memberAt (db : Db) (allianceId url : String) : Option String :=
  (db.allianceMembers.rows.find? fun row => row.allianceId = allianceId && row.hubUrl = url).map
    (·.hubPublicKey)

/-- `INSERT OR IGNORE INTO peers`. -/
def insertPeerOrIgnore (row : PeerRow) (db : Db) : Db :=
  { db with peers := db.peers.insertOrIgnore row }

/-- The inviter becomes a peer, unless it is one. -/
def keepPeer (now : Int) (inviterUrl : String) (detail : AllianceDetailResponse) (key : String) :
    Handler Unit := do
  let known ← fetch (·.peers.has key)
  .when (known = false) do
    .each detail.members fun m =>
      .when (m.hubUrl ≠ "self" ∧ m.hubUrl = inviterUrl)
        (write (insertPeerOrIgnore ⟨m.hubPublicKey, m.hubName, m.hubUrl, now⟩))

/-- Keep the session at the inviter, if it is found under its URL. -/
def rememberInviter (now : Int) (inviterUrl token : String) (detail : AllianceDetailResponse) :
    Handler Unit := do
  let inviterPubkey ← fetch (·.memberAt detail.id inviterUrl)
  .whenSome inviterPubkey fun key => do
    .exec (·.setPeerToken key token)
    keepPeer now inviterUrl detail key

/-- Mirror the alliance as it is described. -/
def mirrorAlliance (lib : Crates) (detail : AllianceDetailResponse) : Handler Unit := do
  write (insertAllianceOrIgnore ⟨detail.id, detail.name, detail.createdBy, detail.createdAt⟩)
  let ownKey ← .query (·.publicKeyHex lib.ed25519)
  .each detail.members fun m =>
    execute (insertAllianceMemberOrIgnore (m.mirror detail.id ownKey))

/-- `do_join_alliance`. -/
def doJoinAlliance (lib : Crates) (now : Int) (inviter : InviterAnswers) (inviterUrl : String) :
    Handler AllianceDetailResponse := do
  let token ← .ofExcept (inviter.login.mapError fun _ => unreachableInviter)
  let status ← .ofExcept (inviter.join.mapError fun _ => unreachableInviter)
  .ensure (status.isSuccess = true) (declinedJoin status)
  let detail ← .ofExcept (inviter.detail.mapError fun _ => ⟨.badGateway,
    "Joined the alliance but could not load its details. Try refreshing the page."⟩)
  mirrorAlliance lib detail
  rememberInviter now inviterUrl token detail
  pure detail

/-! ## A network of hubs -/

/-- Hubs that can be reached under URLs, none of them under the placeholder. A hub may be
reached under several. -/
structure AllianceNetwork (H : Type) where
  lib : Crates
  address : String → Option H
  hubName : H → String
  address_self : address "self" = none

/-- A call of `do_join_alliance`, with the clocks of the two hubs, what the login at the
inviter gives, and how the joining hub lets the inviter log in. -/
structure JoinCall (H : Type) where
  joiner : H
  inviterUrl : String
  allianceId : String
  inviteToken : String
  ownHubUrl : String
  now : Int
  inviterNow : Int
  login : Except String String
  challenge : String → Reply String
  verify : VerifyRequest → Reply VerifyResponse

/-- What happens in the network: alliances are created and joined. -/
inductive AllianceCall (H : Type) where
  | create (hub : H) (id : String) (now : Int) (user name : String)
  | join (call : JoinCall H)

/-- A hub has joined. -/
structure Joined (H : Type) where
  joiner : H
  inviter : H
  inviterUrl : String
  detail : AllianceDetailResponse

namespace AllianceNetwork

variable {H : Type} [DecidableEq H] (W : AllianceNetwork H)

/-- The key of a hub. -/
def key (net : H → AppState) (hub : H) : String :=
  (net hub).publicKeyHex W.lib.ed25519

/-- What answers at a URL while a hub joins. -/
def remote (net : H → AppState) (call : JoinCall H) (url : String) : Remote :=
  match W.address url with
  | none => ⟨.unreachable, fun _ => .unreachable, fun _ => .unreachable⟩
  | some hub => ⟨.json ⟨((net hub).db.setting "hub_name").getD (W.hubName hub), W.key net hub⟩,
      call.challenge, call.verify⟩

/-- What the inviter makes of the request to join. -/
def register (net : H → AppState) (call : JoinCall H) (inviter : H) :
    Except ApiError StatusCode × AppState :=
  (joinAlliance W.lib call.inviterNow (W.remote net call) call.allianceId
    ⟨call.inviteToken, call.ownHubUrl⟩).run (net inviter)

/-- The network after the request to join, and what the inviter has answered by then. -/
def invite (net : H → AppState) (call : JoinCall H) : (H → AppState) × InviterAnswers :=
  match W.address call.inviterUrl, call.login with
  | none, _ => (net, ⟨.error "unreachable", .error "unreachable", .error "unreachable"⟩)
  | some _, .error e => (net, ⟨.error e, .error e, .error e⟩)
  | some inviter, .ok token =>
      let (answer, state) := W.register net call inviter
      (Function.update net inviter state,
        ⟨.ok token, .ok (match answer with | .ok status => status | .error e => e.status),
          ((getAlliance call.allianceId).run state).1.mapError (·.message)⟩)

/-- The joining hub does its part. -/
def doJoin (net : H → AppState) (call : JoinCall H) :
    Except ApiError AllianceDetailResponse × AppState :=
  (doJoinAlliance W.lib call.now (W.invite net call).2 call.inviterUrl).run
    ((W.invite net call).1 call.joiner)

def step : AllianceCall H → (H → AppState) → H → AppState
  | .create hub id now user name, net =>
      Function.update net hub
        ((createAlliance W.lib id now (W.hubName hub) user name).run (net hub)).2
  | .join call, net => Function.update (W.invite net call).1 call.joiner (W.doJoin net call).2

/-- The joins that succeed. -/
def joined : AllianceCall H → (H → AppState) → List (Joined H)
  | .create _ _ _ _ _, _ => []
  | .join call, net =>
      ((W.address call.inviterUrl).bind fun inviter =>
        (W.doJoin net call).1.toOption.map fun detail =>
        ⟨call.joiner, inviter, call.inviterUrl, detail⟩).toList

/-- The mirror of a hub that has joined: everybody who was listed is in it, the inviter
under the URL that was used, nobody but the hub itself under the placeholder, so that all
others can be reached, and there is a session at the inviter. -/
structure Mirrored (net : H → AppState) (j : Joined H) : Prop where
  listed : ∀ m ∈ j.detail.members,
    (net j.joiner).db.allianceMembers.has (j.detail.id, m.hubPublicKey) = true
  inviter : ∃ row, (net j.joiner).db.allianceMembers.find? (j.detail.id, W.key net j.inviter) =
    some row ∧ row.hubUrl = j.inviterUrl
  placeholder : ∀ row ∈ (net j.joiner).db.allianceMembers.rows,
    row.hubPublicKey ≠ W.key net j.joiner → row.hubUrl ≠ "self"
  reachable : ∀ row ∈ (net j.joiner).db.allianceMembers.rows,
    row.hubPublicKey ≠ W.key net j.joiner →
      ∃ hub, W.address row.hubUrl = some hub ∧ W.key net hub = row.hubPublicKey
  session : (net j.joiner).peerTokens (W.key net j.inviter) ≠ none

end AllianceNetwork

/-! ## Growing tables -/

/-- The table of members has grown by rows of a kind, and no session was forgotten. -/
structure Grew (added : AllianceMemberRow → Prop) (s t : AppState) : Prop where
  identity : t.hubIdentity = s.hubIdentity
  sessions : ∀ key, s.peerTokens key ≠ none → t.peerTokens key ≠ none
  kept : ∀ row ∈ s.db.allianceMembers.rows, row ∈ t.db.allianceMembers.rows
  added : ∀ row ∈ t.db.allianceMembers.rows, row ∈ s.db.allianceMembers.rows ∨ added row

namespace Grew

variable {added : AllianceMemberRow → Prop} {s t u : AppState}

theorem refl (s : AppState) : Grew added s s :=
  ⟨rfl, fun _ h => h, fun _ h => h, fun _ h => .inl h⟩

theorem trans (s t u : AppState) (h : Grew added s t) (h' : Grew added t u) : Grew added s u where
  identity := h'.identity.trans h.identity
  sessions key hkey := h'.sessions key (h.sessions key hkey)
  kept row hrow := h'.kept row (h.kept row hrow)
  added row hrow := (h'.added row hrow).elim (h.added row) .inr

theorem mono {added' : AllianceMemberRow → Prop} (h : Grew added s t)
    (himp : ∀ row, added row → added' row) : Grew added' s t :=
  { h with added := fun row hrow => (h.added row hrow).imp_right (himp row) }

theorem of_same (hidentity : t.hubIdentity = s.hubIdentity)
    (hsessions : t.peerTokens = s.peerTokens)
    (hmembers : t.db.allianceMembers = s.db.allianceMembers) : Grew added s t where
  identity := hidentity
  sessions _ h := hsessions ▸ h
  kept _ h := hmembers ▸ h
  added _ h := .inl (hmembers ▸ h)

theorem setPeerToken (key token : String) : Grew added s (s.setPeerToken key token) where
  identity := rfl
  sessions key' h := by
    show (if key' = key then some token else s.peerTokens key') ≠ none
    split_ifs
    · exact Option.some_ne_none token
    · exact h
  kept _ h := h
  added _ h := .inl h

/-- A row that is there is the row of its key. -/
theorem find? (h : Grew added s t) {memberKey : String × String} {row : AllianceMemberRow}
    (hrow : s.db.allianceMembers.find? memberKey = some row) :
    t.db.allianceMembers.find? memberKey = some row := by
  obtain ⟨hmem, hkey⟩ := Table.find?_eq_some_iff.mp hrow
  exact Table.find?_eq_some_iff.mpr ⟨h.kept row hmem, hkey⟩

theorem has (h : Grew added s t) {memberKey : String × String}
    (hhas : s.db.allianceMembers.has memberKey = true) :
    t.db.allianceMembers.has memberKey = true := by
  obtain ⟨row, hmem, hkey⟩ := Table.has_iff.mp hhas
  exact Table.has_iff.mpr ⟨row, h.kept row hmem, hkey⟩

theorem publicKeyHex (h : Grew added s t) (E : Ed25519) : t.publicKeyHex E = s.publicKeyHex E := by
  rw [AppState.publicKeyHex, h.identity, AppState.publicKeyHex]

theorem insertMember (row : AllianceMemberRow) (hadded : added row) {db : Db}
    (h : insertAllianceMemberOrIgnore row s.db = .ok db) : Grew added s (s.withDb db) := by
  unfold insertAllianceMemberOrIgnore at h
  cases hinsert : s.db.allianceMembers.insert? row with
  | none =>
      rw [hinsert] at h
      cases h
      exact of_same rfl rfl rfl
  | some members =>
      rw [hinsert] at h
      dsimp only at h
      split_ifs at h with hknown
      cases h
      have hrows := (Table.insert?_eq_some_iff.mp hinsert).2
      constructor
      · rfl
      · exact fun _ h => h
      · intro old hold
        show old ∈ members.rows
        rw [hrows]
        exact List.mem_append_left _ hold
      · intro new hnew
        change new ∈ members.rows at hnew
        rw [hrows, List.mem_append, List.mem_singleton] at hnew
        exact hnew.imp_right fun hsame : new = row => hsame ▸ hadded

end Grew

/-- Where the key is free, ignoring a taken key makes no difference. -/
theorem insertOrIgnore_of_insert {row : AllianceMemberRow} {db db' : Db}
    (h : insertAllianceMember row db = .ok db') :
    insertAllianceMemberOrIgnore row db = .ok db' := by
  unfold insertAllianceMember at h
  unfold insertAllianceMemberOrIgnore
  cases hinsert : db.allianceMembers.insert? row with
  | none =>
      rw [hinsert] at h
      cases h
  | some members =>
      rw [hinsert] at h
      exact h

/-- What is added is as the insertion has it. -/
theorem changes_insertMember {added : AllianceMemberRow → Prop} (row : AllianceMemberRow)
    (hadded : added row) : (execute (insertAllianceMemberOrIgnore row)).Changes (Grew added) :=
  changes_execute Grew.refl fun _ _ h => Grew.insertMember row hadded h

theorem has_of_insertMember {row : AllianceMemberRow} {s : AppState} {db : Db}
    (h : insertAllianceMemberOrIgnore row s.db = .ok db) :
    db.allianceMembers.has row.key = true := by
  unfold insertAllianceMemberOrIgnore at h
  cases hinsert : s.db.allianceMembers.insert? row with
  | none =>
      rw [hinsert] at h
      cases h
      exact Table.has_iff.mpr (Table.insert?_eq_none_iff.mp hinsert)
  | some members =>
      rw [hinsert] at h
      dsimp only at h
      split_ifs at h
      cases h
      exact (Table.has_of_append (Table.insert?_eq_some_iff.mp hinsert).2 _).mpr (.inr rfl)

theorem grows_peerWith {added : AllianceMemberRow → Prop} (lib : Crates) (now : Int)
    (peer : Remote) (hubUrl : String) (hubInfo : InfoResponse) :
    (peerWith lib now peer hubUrl hubInfo).Changes (Grew added) := by
  apply Prog.Changes.bind Grew.trans (Prog.changes_query Grew.refl _)
  intro _
  apply Prog.changes_when Grew.refl
  apply Prog.Changes.bind Grew.trans
  · apply changes_execute Grew.refl
    intro s db hdb
    unfold insertPeer at hdb
    split at hdb
    · cases hdb
    · cases hdb
      exact Grew.of_same rfl rfl rfl
  intro _
  apply Prog.Changes.bind Grew.trans (Prog.changes_query Grew.refl _)
  intro identity
  cases authenticate lib.ed25519 identity peer with
  | ok token => exact Prog.changes_exec fun _ => Grew.setPeerToken _ _
  | error e => exact Prog.changes_ret Grew.refl _

/-- The inviter adds the hub that answers at the URL it was given. -/
theorem grew_joinAlliance (lib : Crates) (now : Int) (network : String → Remote)
    (allianceId : String) (req : JoinAllianceRequest) (s : AppState) :
    Grew (fun row => ∃ info, getInfo (network req.hubUrl) = .ok info ∧
        row = ⟨allianceId, info.publicKey, info.name, req.hubUrl, now⟩) s
      ((joinAlliance lib now network allianceId req).run s).2 := by
  unfold joinAlliance
  rw [Prog.run_bind_of_ok (Prog.run_query _ s), Prog.run_bind', Prog.run_ofExcept]
  cases checkInviteToken lib.ed25519 (s.publicKeyHex lib.ed25519) allianceId req.inviteToken with
  | error e => exact Grew.refl s
  | ok _ =>
      dsimp only
      rw [Prog.run_bind', Prog.run_ofExcept]
      cases hinfo : getInfo (network req.hubUrl) with
      | error e => exact Grew.refl s
      | ok info =>
          dsimp only [Except.mapError]
          apply Prog.Changes.bind Grew.trans (changes_insertMember _ ⟨info, rfl, rfl⟩)
          intro _
          apply Prog.Changes.bind Grew.trans (grows_peerWith lib now _ _ info)
          exact fun _ => Prog.changes_ret Grew.refl _

/-- A hub that creates an alliance adds itself, under the placeholder. -/
theorem grew_createAlliance (lib : Crates) (id : String) (now : Int) (hubName user name : String)
    (s : AppState) :
    Grew (fun row => row.hubPublicKey = s.publicKeyHex lib.ed25519 ∧ row.hubUrl = "self") s
      ((createAlliance lib id now hubName user name).run s).2 := by
  unfold createAlliance
  rw [Prog.run_bind_of_ok (run_userPermissions user s), Prog.run_bind', Prog.run_ofExcept]
  cases (s.db.userPermissions user).require admin with
  | error e => exact Grew.refl s
  | ok _ =>
      dsimp only
      rw [Prog.run_bind']
      cases hinsert : insertAlliance ⟨id, name, user, now⟩ s.db with
      | error e =>
          rw [run_execute_of_error hinsert]
          exact Grew.refl s
      | ok db =>
          have hsame : db.allianceMembers = s.db.allianceMembers := by
            unfold insertAlliance at hinsert
            split at hinsert
            · cases hinsert
            · cases hinsert
              rfl
          have hstored : Grew (fun row => row.hubPublicKey = s.publicKeyHex lib.ed25519 ∧
              row.hubUrl = "self") s (s.withDb db) := Grew.of_same rfl rfl hsame
          rw [run_execute_of_ok hinsert]
          dsimp only
          rw [Prog.run_bind_of_ok (run_fetch _ _), Prog.run_bind_of_ok (Prog.run_query _ _)]
          apply Grew.trans _ _ _ hstored
          apply Prog.Changes.bind Grew.trans
          · apply changes_execute Grew.refl
            intro t db' hdb'
            exact Grew.insertMember _ ⟨rfl, rfl⟩ (insertOrIgnore_of_insert hdb')
          · exact fun _ => Prog.changes_ret Grew.refl _

/-! ## What a joining hub does -/

section Mirror

variable {lib : Crates} {s t : AppState} {detail : AllianceDetailResponse}

/-- A row as it is copied from the description of an alliance. -/
def FromDetail (lib : Crates) (s : AppState) (detail : AllianceDetailResponse)
    (row : AllianceMemberRow) : Prop :=
  ∃ m ∈ detail.members, row = m.mirror detail.id (s.publicKeyHex lib.ed25519)

/-- The loop over the members. -/
theorem grew_mirrorMembers {ownKey id : String} {members : List AllianceMemberInfo}
    {r : Except ApiError Unit} (h : (Prog.each members fun m =>
      execute (insertAllianceMemberOrIgnore (m.mirror id ownKey))).run s = (r, t)) :
    Grew (fun row => ∃ m ∈ members, row = m.mirror id ownKey) s t ∧
      (r = .ok () → ∀ m ∈ members, t.db.allianceMembers.has (id, m.hubPublicKey) = true) := by
  induction members generalizing s with
  | nil =>
      cases h
      exact ⟨Grew.refl _, fun _ m hm => by cases hm⟩
  | cons m rest ih =>
      rw [Prog.run_each_cons] at h
      cases hinsert : insertAllianceMemberOrIgnore (m.mirror id ownKey) s.db with
      | error e =>
          rw [Prog.run_bind_of_error (run_execute_of_error hinsert)] at h
          cases h
          exact ⟨Grew.refl _, fun hok => by cases hok⟩
      | ok db =>
          rw [Prog.run_bind_of_ok (run_execute_of_ok hinsert)] at h
          obtain ⟨hgrew, hall⟩ := ih h
          have hrest : Grew (fun row => ∃ m' ∈ m :: rest, row = m'.mirror id ownKey)
              (s.withDb db) t := by
            apply hgrew.mono
            rintro row ⟨m', hm', rfl⟩
            exact ⟨m', List.mem_cons_of_mem m hm', rfl⟩
          have hfirst : Grew (fun row => ∃ m' ∈ m :: rest, row = m'.mirror id ownKey) s
              (s.withDb db) := Grew.insertMember _ ⟨m, List.mem_cons_self, rfl⟩ hinsert
          refine ⟨Grew.trans _ _ _ hfirst hrest, fun hok m' hm' => ?_⟩
          rcases List.mem_cons.mp hm' with rfl | hm'
          · exact hgrew.has (has_of_insertMember hinsert)
          · exact hall hok m' hm'

theorem grew_mirrorAlliance {r : Except ApiError Unit}
    (h : (mirrorAlliance lib detail).run s = (r, t)) :
    Grew (FromDetail lib s detail) s t ∧
      (r = .ok () → ∀ m ∈ detail.members,
        t.db.allianceMembers.has (detail.id, m.hubPublicKey) = true) := by
  rw [mirrorAlliance, Prog.run_bind_of_ok (run_write _ s),
    Prog.run_bind_of_ok (Prog.run_query _ _)] at h
  obtain ⟨hgrew, hall⟩ := grew_mirrorMembers h
  have hstored : Grew (FromDetail lib s detail) s (s.withDb (insertAllianceOrIgnore
      ⟨detail.id, detail.name, detail.createdBy, detail.createdAt⟩ s.db)) :=
    Grew.of_same rfl rfl rfl
  exact ⟨Grew.trans _ _ _ hstored hgrew, hall⟩

theorem grows_keepPeer {added : AllianceMemberRow → Prop} (now : Int) (inviterUrl : String)
    (detail : AllianceDetailResponse) (key : String) :
    (keepPeer now inviterUrl detail key).Changes (Grew added) := by
  apply Prog.Changes.bind Grew.trans (Prog.changes_query Grew.refl _)
  intro _
  apply Prog.changes_when Grew.refl
  apply Prog.changes_each Grew.refl Grew.trans
  intro m
  apply Prog.changes_when Grew.refl
  exact changes_write fun _ => Grew.of_same rfl rfl rfl

theorem grows_rememberInviter {added : AllianceMemberRow → Prop} (now : Int)
    (inviterUrl token : String) (detail : AllianceDetailResponse) :
    (rememberInviter now inviterUrl token detail).Changes (Grew added) := by
  apply Prog.Changes.bind Grew.trans (Prog.changes_query Grew.refl _)
  intro key
  apply Prog.changes_whenSome Grew.refl
  intro key
  apply Prog.Changes.bind Grew.trans (Prog.changes_exec fun _ => Grew.setPeerToken _ _)
  exact fun _ => grows_keepPeer now inviterUrl detail key

/-- Whoever is found under the URL that was used has a session afterwards. -/
theorem session_rememberInviter (now : Int) {inviterUrl key : String} (token : String)
    (hkey : s.db.memberAt detail.id inviterUrl = some key) :
    ((rememberInviter now inviterUrl token detail).run s).2.peerTokens key ≠ none := by
  rw [rememberInviter, Prog.run_bind_of_ok (run_fetch _ s), hkey, Prog.whenSome,
    Prog.run_bind_of_ok (Prog.run_exec _ s)]
  have hgrew : Grew (fun _ => False) (s.setPeerToken key token) _ :=
    grows_keepPeer now inviterUrl detail key (s.setPeerToken key token)
  apply hgrew.sessions
  show (if key = key then some token else s.peerTokens key) ≠ none
  rw [if_pos rfl]
  exact Option.some_ne_none token

/-- A join that succeeds has come through all its stages. -/
theorem doJoinAlliance_ok {now : Int} {inviter : InviterAnswers} {inviterUrl : String}
    (h : (doJoinAlliance lib now inviter inviterUrl).run s = (.ok detail, t)) :
    ∃ token u, inviter.detail = .ok detail ∧ (mirrorAlliance lib detail).run s = (.ok (), u) ∧
      t = ((rememberInviter now inviterUrl token detail).run u).2 := by
  unfold doJoinAlliance at h
  obtain ⟨token, -, h⟩ := (Prog.reads_ofExcept _).run_bind_ok h
  obtain ⟨status, -, h⟩ := (Prog.reads_ofExcept _).run_bind_ok h
  obtain ⟨_, -, h⟩ := Prog.reads_ensure.run_bind_ok h
  obtain ⟨detail', hdetail, h⟩ := (Prog.reads_ofExcept _).run_bind_ok h
  rw [Prog.run_ofExcept, Prod.mk.injEq, mapError_eq_ok_iff] at hdetail
  rcases Prog.run_bind_cases h with ⟨e, -, he⟩ | ⟨_, u, hmirror, h⟩
  · cases he
  rcases Prog.run_bind_cases h with ⟨e, -, he⟩ | ⟨_, v, hremember, h⟩
  · cases he
  cases h
  exact ⟨token, u, hdetail.1, hmirror, by rw [hremember]⟩

/-- What a join that succeeds leaves: the tables of before with copies of what the inviter
describes, in which everybody is found, and a session with a member that has the URL, if
there is one. -/
theorem grew_doJoinAlliance {now : Int} {inviter : InviterAnswers} {inviterUrl : String}
    (h : (doJoinAlliance lib now inviter inviterUrl).run s = (.ok detail, t)) :
    Grew (FromDetail lib s detail) s t ∧
      (∀ m ∈ detail.members, t.db.allianceMembers.has (detail.id, m.hubPublicKey) = true) ∧
      ((∃ row ∈ t.db.allianceMembers.rows, row.allianceId = detail.id ∧ row.hubUrl = inviterUrl) →
        ∃ row ∈ t.db.allianceMembers.rows, row.allianceId = detail.id ∧
          row.hubUrl = inviterUrl ∧ t.peerTokens row.hubPublicKey ≠ none) := by
  obtain ⟨token, u, -, hmirror, rfl⟩ := doJoinAlliance_ok h
  obtain ⟨hgrew, hall⟩ := grew_mirrorAlliance hmirror
  have hrest : Grew (fun _ => False) u ((rememberInviter now inviterUrl token detail).run u).2 :=
    grows_rememberInviter now inviterUrl token detail u
  have hcopies := hrest.mono fun row hrow => (hrow.elim : FromDetail lib s detail row)
  refine ⟨Grew.trans _ _ _ hgrew hcopies, fun m hm => hrest.has (hall rfl m hm), ?_⟩
  rintro ⟨row, hrow, hid, hurl⟩
  have hbefore := (hrest.added row hrow).resolve_right id
  have hsome : (u.db.allianceMembers.rows.find? fun row =>
      row.allianceId = detail.id && row.hubUrl = inviterUrl).isSome := by
    rw [List.find?_isSome]
    exact ⟨row, hbefore, by simp [hid, hurl]⟩
  obtain ⟨found, hfound⟩ := Option.isSome_iff_exists.mp hsome
  have hcond := List.find?_some hfound
  simp only [Bool.and_eq_true, decide_eq_true_eq] at hcond
  have hkey : u.db.memberAt detail.id inviterUrl = some found.hubPublicKey := by
    rw [Db.memberAt, hfound]
    rfl
  exact ⟨found, hrest.kept found (List.mem_of_find?_eq_some hfound), hcond.1, hcond.2,
    session_rememberInviter now token hkey⟩

/-- Where the alliance is known, its members can be inserted. -/
theorem run_mirrorMembers {ownKey id : String} (members : List AllianceMemberInfo)
    (hknown : s.db.alliances.has id = true) :
    ((Prog.each members fun m =>
      execute (insertAllianceMemberOrIgnore (m.mirror id ownKey))).run s).1 = .ok () := by
  induction members generalizing s with
  | nil => rfl
  | cons m rest ih =>
      have hinsert : ∃ db, insertAllianceMemberOrIgnore (m.mirror id ownKey) s.db = .ok db ∧
          db.alliances = s.db.alliances := by
        unfold insertAllianceMemberOrIgnore
        cases s.db.allianceMembers.insert? (m.mirror id ownKey) with
        | none => exact ⟨_, rfl, rfl⟩
        | some members => exact ⟨_, if_pos hknown, rfl⟩
      obtain ⟨db, hinsert, hsame⟩ := hinsert
      rw [Prog.run_each_cons, Prog.run_bind_of_ok (run_execute_of_ok hinsert)]
      apply ih
      show db.alliances.has id = true
      rw [hsame, hknown]

theorem run_mirrorAlliance (lib : Crates) (detail : AllianceDetailResponse) (s : AppState) :
    ((mirrorAlliance lib detail).run s).1 = .ok () := by
  rw [mirrorAlliance, Prog.run_bind_of_ok (run_write _ s), Prog.run_bind_of_ok (Prog.run_query _ _)]
  apply run_mirrorMembers
  exact (Table.has_insertOrIgnore _ _ _).mpr (.inr rfl)

theorem run_rememberInviter (now : Int) (inviterUrl token : String)
    (detail : AllianceDetailResponse) (s : AppState) :
    ((rememberInviter now inviterUrl token detail).run s).1 = .ok () := by
  have hnever : (rememberInviter now inviterUrl token detail).FailsOnly fun _ => False := by
    refine Prog.FailsOnly.bind (Prog.failsOnly_query _) fun key => ?_
    apply Prog.failsOnly_whenSome
    intro key
    refine Prog.FailsOnly.bind (Prog.failsOnly_exec _) fun _ => ?_
    refine Prog.FailsOnly.bind (Prog.failsOnly_query _) fun _ => ?_
    apply Prog.failsOnly_when
    apply Prog.failsOnly_each
    intro m
    apply Prog.failsOnly_when
    exact fun t e he => by cases he
  cases hrun : ((rememberInviter now inviterUrl token detail).run s).1 with
  | error e => exact (hnever s e hrun).elim
  | ok _ => rfl

/-- A join that fails changes nothing where it was asked for. -/
theorem doJoinAlliance_error {now : Int} {inviter : InviterAnswers} {inviterUrl : String}
    {e : ApiError} (h : (doJoinAlliance lib now inviter inviterUrl).run s = (.error e, t)) :
    t = s := by
  unfold doJoinAlliance at h
  rcases (Prog.reads_ofExcept _).run_bind_cases h with rfl | ⟨token, -, h⟩
  · rfl
  rcases (Prog.reads_ofExcept _).run_bind_cases h with rfl | ⟨status, -, h⟩
  · rfl
  rcases Prog.reads_ensure.run_bind_cases h with rfl | ⟨_, -, h⟩
  · rfl
  rcases (Prog.reads_ofExcept _).run_bind_cases h with rfl | ⟨detail, -, h⟩
  · rfl
  rcases Prog.run_bind_cases h with ⟨e', hmirror, -⟩ | ⟨_, u, -, h⟩
  · have hok := run_mirrorAlliance lib detail s
    rw [hmirror] at hok
    cases hok
  rcases Prog.run_bind_cases h with ⟨e', hremember, -⟩ | ⟨_, v, -, h⟩
  · have hok := run_rememberInviter now inviterUrl token detail u
    rw [hremember] at hok
    cases hok
  · cases h

end Mirror

/-! ## Invariants of the network -/

theorem getAlliance_ok {allianceId : String} {s t : AppState} {detail : AllianceDetailResponse}
    (h : (getAlliance allianceId).run s = (.ok detail, t)) :
    detail.id = allianceId ∧
      detail.members = (s.db.membersOfAlliance allianceId).map AllianceMemberRow.info := by
  rw [getAlliance, Prog.run_bind_of_ok (run_fetch _ s)] at h
  cases halliance : s.db.alliances.find? allianceId with
  | none =>
      rw [halliance] at h
      cases h
  | some alliance =>
      rw [halliance] at h
      cases h
      exact ⟨(Table.find?_eq_some_iff.mp halliance).2, rfl⟩

namespace AllianceNetwork

variable {H : Type} {W : AllianceNetwork H} {net net' : H → AppState}

/-- Every row is one that leads to its hub, or has the placeholder; and it has the
placeholder only for the hub itself. -/
structure Kept (W : AllianceNetwork H) (net : H → AppState) : Prop where
  resolved : ∀ hub, ∀ row ∈ (net hub).db.allianceMembers.rows,
    row.hubUrl = "self" ∨
      ∃ other, W.address row.hubUrl = some other ∧ W.key net other = row.hubPublicKey
  placeholder : ∀ hub, ∀ row ∈ (net hub).db.allianceMembers.rows,
    row.hubPublicKey ≠ W.key net hub → row.hubUrl ≠ "self"

/-- The rows that may be added to the table of a hub. -/
def MayAdd (W : AllianceNetwork H) (net : H → AppState) (hub : H)
    (row : AllianceMemberRow) : Prop :=
  (row.hubUrl = "self" ∨
      ∃ other, W.address row.hubUrl = some other ∧ W.key net other = row.hubPublicKey) ∧
    (row.hubPublicKey ≠ W.key net hub → row.hubUrl ≠ "self")

/-- All tables have grown by rows that may be added. -/
def Grows (W : AllianceNetwork H) (net net' : H → AppState) : Prop :=
  ∀ hub, Grew (W.MayAdd net hub) (net hub) (net' hub)

theorem Grows.key (h : W.Grows net net') (hub : H) : W.key net' hub = W.key net hub :=
  (h hub).publicKeyHex W.lib.ed25519

theorem Grows.refl (net : H → AppState) : W.Grows net net :=
  fun hub => Grew.refl (net hub)

theorem Grows.trans {net'' : H → AppState} (h : W.Grows net net') (h' : W.Grows net' net'') :
    W.Grows net net'' := by
  intro hub
  apply Grew.trans _ _ _ (h hub)
  apply (h' hub).mono
  unfold MayAdd
  simp only [h.key]
  exact fun _ hrow => hrow

theorem Kept.grows (hkept : W.Kept net) (h : W.Grows net net') : W.Kept net' := by
  have hall : ∀ hub, ∀ row ∈ (net' hub).db.allianceMembers.rows, W.MayAdd net' hub row := by
    intro hub row hrow
    unfold MayAdd
    simp only [h.key]
    rcases (h hub).added row hrow with hold | hadded
    · exact ⟨hkept.resolved hub row hold, hkept.placeholder hub row hold⟩
    · exact hadded
  exact ⟨fun hub row hrow => (hall hub row hrow).1, fun hub row hrow => (hall hub row hrow).2⟩

/-- A mirror stays right while the tables grow as they may. -/
theorem Mirrored.grows {j : Joined H} (h : W.Mirrored net j) (hgrows : W.Grows net net')
    (hkept : W.Kept net') : W.Mirrored net' j where
  listed m hm := (hgrows j.joiner).has (h.listed m hm)
  inviter := by
    obtain ⟨row, hrow, hurl⟩ := h.inviter
    rw [hgrows.key]
    exact ⟨row, (hgrows j.joiner).find? hrow, hurl⟩
  placeholder := hkept.placeholder j.joiner
  reachable row hrow hne :=
    (hkept.resolved j.joiner row hrow).resolve_left (hkept.placeholder j.joiner row hrow hne)
  session := by
    rw [hgrows.key]
    exact (hgrows j.joiner).sessions _ h.session

variable [DecidableEq H]

/-- One hub has done something. -/
theorem Grows.update {hub : H} {state : AppState}
    (h : Grew (W.MayAdd net hub) (net hub) state) :
    W.Grows net (Function.update net hub state) := by
  intro other
  by_cases hsame : other = hub
  · subst hsame
    rw [Function.update_self]
    exact h
  · rw [Function.update_of_ne hsame]
    exact Grew.refl _

/-- A hub registers the one that answers at the URL it was given. -/
theorem grows_invite (W : AllianceNetwork H) (net : H → AppState) (call : JoinCall H) :
    W.Grows net (W.invite net call).1 := by
  unfold invite
  cases W.address call.inviterUrl with
  | none => exact Grows.refl net
  | some inviter =>
      cases call.login with
      | error e => exact Grows.refl net
      | ok token =>
          apply Grows.update
          apply (grew_joinAlliance W.lib call.inviterNow (W.remote net call) call.allianceId
            ⟨call.inviteToken, call.ownHubUrl⟩ (net inviter)).mono
          rintro row ⟨info, hinfo, rfl⟩
          unfold getInfo remote at hinfo
          cases haddress : W.address call.ownHubUrl with
          | none =>
              rw [haddress] at hinfo
              cases hinfo
          | some own =>
              rw [haddress] at hinfo
              cases hinfo
              refine ⟨.inr ⟨own, haddress, rfl⟩, fun _ hself => ?_⟩
              change call.ownHubUrl = "self" at hself
              rw [hself, W.address_self] at haddress
              cases haddress

/-- What the inviter describes is its table, once it has registered the joining hub. -/
theorem invite_detail {call : JoinCall H} {detail : AllianceDetailResponse}
    (h : (W.invite net call).2.detail = .ok detail) :
    ∃ inviter, W.address call.inviterUrl = some inviter ∧
      detail.members = (((W.invite net call).1 inviter).db.membersOfAlliance detail.id).map
        AllianceMemberRow.info := by
  unfold invite at h ⊢
  cases haddress : W.address call.inviterUrl with
  | none =>
      rw [haddress] at h
      cases h
  | some inviter =>
      rw [haddress] at h
      cases hlogin : call.login with
      | error e =>
          rw [hlogin] at h
          cases h
      | ok token =>
          rw [hlogin] at h
          dsimp only at h ⊢
          rw [mapError_eq_ok_iff] at h
          obtain ⟨hid, hmembers⟩ := getAlliance_ok (Prod.ext h rfl)
          exact ⟨inviter, rfl, by rw [Function.update_self, hmembers, hid]⟩

/-- The inviter's row, as the joining hub has it or else as it is listed to it, has the
URL that was used to join. -/
def NamesInviter (W : AllianceNetwork H) (net : H → AppState) (j : Joined H) : Prop :=
  match (net j.joiner).db.allianceMembers.find? (j.detail.id, W.key net j.inviter) with
  | some row => row.hubUrl = j.inviterUrl
  | none => W.key net j.inviter ≠ W.key net j.joiner ∧
      ∃ m ∈ j.detail.members, m.hubPublicKey = W.key net j.inviter ∧ m.hubUrl = j.inviterUrl

/-- A join that succeeds is through a hub that the joining one has, or is told, under the
URL that is used. -/
def Fits (W : AllianceNetwork H) : AllianceCall H → (H → AppState) → Prop
  | .create _ _ _ _ _, _ => True
  | .join call, net => ∀ j ∈ W.joined (.join call) net, W.NamesInviter (W.invite net call).1 j

theorem mem_joined_iff {call : JoinCall H} {j : Joined H} :
    j ∈ W.joined (.join call) net ↔ ∃ inviter detail, W.address call.inviterUrl = some inviter ∧
      (W.doJoin net call).1 = .ok detail ∧ j = ⟨call.joiner, inviter, call.inviterUrl, detail⟩ := by
  unfold joined
  rw [Option.mem_toList, Option.bind_eq_some_iff]
  constructor
  · rintro ⟨inviter, hinviter, h⟩
    obtain ⟨detail, hdetail, rfl⟩ := Option.map_eq_some_iff.mp h
    exact ⟨inviter, detail, hinviter, toOption_eq_some_iff.mp hdetail, rfl⟩
  · rintro ⟨inviter, detail, hinviter, hdetail, rfl⟩
    exact ⟨inviter, hinviter, Option.map_eq_some_iff.mpr
      ⟨detail, toOption_eq_some_iff.mpr hdetail, rfl⟩⟩

/-- Who has joined has come through all stages. -/
theorem doJoin_ok {call : JoinCall H} {detail : AllianceDetailResponse}
    (h : (W.doJoin net call).1 = .ok detail) :
    (W.invite net call).2.detail = .ok detail ∧
      Grew (FromDetail W.lib ((W.invite net call).1 call.joiner) detail)
        ((W.invite net call).1 call.joiner) (W.doJoin net call).2 ∧
      (∀ m ∈ detail.members,
        (W.doJoin net call).2.db.allianceMembers.has (detail.id, m.hubPublicKey) = true) ∧
      ((∃ row ∈ (W.doJoin net call).2.db.allianceMembers.rows, row.allianceId = detail.id ∧
          row.hubUrl = call.inviterUrl) →
        ∃ row ∈ (W.doJoin net call).2.db.allianceMembers.rows, row.allianceId = detail.id ∧
          row.hubUrl = call.inviterUrl ∧
            (W.doJoin net call).2.peerTokens row.hubPublicKey ≠ none) := by
  have hrun : (doJoinAlliance W.lib call.now (W.invite net call).2 call.inviterUrl).run
      ((W.invite net call).1 call.joiner) = (.ok detail, (W.doJoin net call).2) :=
    Prod.ext h rfl
  obtain ⟨_, _, hdetail, -⟩ := doJoinAlliance_ok hrun
  exact ⟨hdetail, grew_doJoinAlliance hrun⟩

theorem doJoin_error {call : JoinCall H} {e : ApiError} (h : (W.doJoin net call).1 = .error e) :
    (W.doJoin net call).2 = (W.invite net call).1 call.joiner :=
  doJoinAlliance_error (Prod.ext h rfl)

/-- A row that was not there before is a copy, and its key was free. -/
theorem fromDetail_of_free {lib : Crates} {s t : AppState} {detail : AllianceDetailResponse}
    (h : Grew (FromDetail lib s detail) s t) {row : AllianceMemberRow}
    (hrow : row ∈ t.db.allianceMembers.rows) :
    row ∈ s.db.allianceMembers.rows ∨
      (FromDetail lib s detail row ∧ s.db.allianceMembers.find? row.key = none) := by
  rcases h.added row hrow with hold | hcopied
  · exact .inl hold
  · cases hfind : s.db.allianceMembers.find? row.key with
    | none => exact .inr ⟨hcopied, rfl⟩
    | some old =>
        obtain ⟨hold, hkey⟩ := Table.find?_eq_some_iff.mp hfind
        have hsame := t.db.allianceMembers.eq_of_key_eq (h.kept old hold) hrow hkey
        exact .inl (hsame ▸ hold)

/-- What is listed is a row of the inviter's table. -/
theorem exists_listed {call : JoinCall H} {inviter : H} {detail : AllianceDetailResponse}
    (hinviter : W.address call.inviterUrl = some inviter)
    (hdetail : (W.invite net call).2.detail = .ok detail) {m : AllianceMemberInfo}
    (hm : m ∈ detail.members) :
    ∃ row ∈ ((W.invite net call).1 inviter).db.allianceMembers.rows,
      row.allianceId = detail.id ∧ row.info = m := by
  obtain ⟨other, hother, hmembers⟩ := invite_detail hdetail
  cases hinviter.symm.trans hother
  rw [hmembers] at hm
  obtain ⟨row, hrow, rfl⟩ := List.mem_map.mp hm
  obtain ⟨hrow, hid⟩ := List.mem_filter.mp hrow
  exact ⟨row, hrow, of_decide_eq_true hid, rfl⟩

/-- Two members that are listed under one key are one. -/
theorem listed_unique_key {call : JoinCall H} {inviter : H} {detail : AllianceDetailResponse}
    (hinviter : W.address call.inviterUrl = some inviter)
    (hdetail : (W.invite net call).2.detail = .ok detail) {first second : AllianceMemberInfo}
    (hfirst : first ∈ detail.members) (hsecond : second ∈ detail.members)
    (hkey : first.hubPublicKey = second.hubPublicKey) : first = second := by
  obtain ⟨row, hrow, hid, rfl⟩ := exists_listed hinviter hdetail hfirst
  obtain ⟨row', hrow', hid', rfl⟩ := exists_listed hinviter hdetail hsecond
  have hsame : row = row' := by
    apply Table.eq_of_key_eq _ hrow hrow'
    rw [AllianceMemberRow.key, AllianceMemberRow.key, hid, hid']
    exact congrArg _ hkey
  rw [hsame]

/-- A join through a hub that is named adds rows that may be added. -/
theorem grows_doJoin {call : JoinCall H} {inviter : H} {detail : AllianceDetailResponse}
    (hkept : W.Kept (W.invite net call).1)
    (hinviter : W.address call.inviterUrl = some inviter)
    (hok : (W.doJoin net call).1 = .ok detail)
    (hnames : W.NamesInviter (W.invite net call).1
      ⟨call.joiner, inviter, call.inviterUrl, detail⟩) :
    Grew (W.MayAdd (W.invite net call).1 call.joiner) ((W.invite net call).1 call.joiner)
      (W.doJoin net call).2 := by
  obtain ⟨hdetail, hgrew, -, -⟩ := doJoin_ok hok
  refine { hgrew with added := fun row hrow => ?_ }
  rcases fromDetail_of_free hgrew hrow with hold | ⟨⟨m, hm, rfl⟩, hfree⟩
  · exact .inl hold
  right
  obtain ⟨listed, hlisted, hid, rfl⟩ := exists_listed hinviter hdetail hm
  by_cases hown : listed.hubPublicKey = W.key (W.invite net call).1 call.joiner
  · exact ⟨.inl (if_pos hown), fun hne => absurd hown hne⟩
  · have hurl : (listed.info.mirror detail.id (W.key (W.invite net call).1 call.joiner)).hubUrl =
        listed.hubUrl := if_neg hown
    refine ⟨hurl.symm ▸ hkept.resolved inviter listed hlisted, fun _ hself => ?_⟩
    change (listed.info.mirror detail.id (W.key (W.invite net call).1 call.joiner)).hubUrl =
      "self" at hself
    rw [hurl] at hself
    have hkey : listed.hubPublicKey = W.key (W.invite net call).1 inviter := by
      by_contra hne
      exact hkept.placeholder inviter listed hlisted hne hself
    -- The inviter is new to the joining hub, so it is listed under the URL.
    have hnew : ((W.invite net call).1 call.joiner).db.allianceMembers.find?
        (detail.id, W.key (W.invite net call).1 inviter) = none := hkey ▸ hfree
    unfold NamesInviter at hnames
    simp only [hnew] at hnames
    obtain ⟨-, m, hmember, hmkey, hmurl⟩ := hnames
    have hsame := listed_unique_key hinviter hdetail hmember hm (hmkey.trans hkey.symm)
    rw [hsame] at hmurl
    rw [← hmurl] at hinviter
    change W.address listed.hubUrl = some inviter at hinviter
    rw [hself, W.address_self] at hinviter
    cases hinviter

theorem grows_step (hkept : W.Kept net) {call : AllianceCall H} (hfits : W.Fits call net) :
    W.Grows net (W.step call net) := by
  cases call with
  | create hub id now user name =>
      apply Grows.update
      apply (grew_createAlliance W.lib id now (W.hubName hub) user name (net hub)).mono
      rintro row ⟨hkey, hself⟩
      exact ⟨.inl hself, fun hne => absurd hkey hne⟩
  | join call =>
      have hinvited := grows_invite W net call
      apply hinvited.trans
      apply Grows.update
      cases hanswer : (W.doJoin net call).1 with
      | error e =>
          rw [doJoin_error hanswer]
          exact Grew.refl _
      | ok detail =>
          obtain ⟨-, -, hdetail, -⟩ := doJoinAlliance_ok (Prod.ext hanswer rfl :
            (doJoinAlliance W.lib call.now (W.invite net call).2 call.inviterUrl).run
              ((W.invite net call).1 call.joiner) = (.ok detail, (W.doJoin net call).2))
          obtain ⟨inviter, hinviter, -⟩ := invite_detail hdetail
          exact grows_doJoin (hkept.grows hinvited) hinviter hanswer
            (hfits _ (mem_joined_iff.mpr ⟨inviter, detail, hinviter, hanswer, rfl⟩))

/-- A hub that has joined has a right mirror exactly if the inviter is named. -/
theorem mirrored_iff {call : JoinCall H} {inviter : H} {detail : AllianceDetailResponse}
    (hkept : W.Kept net) (hinviter : W.address call.inviterUrl = some inviter)
    (hok : (W.doJoin net call).1 = .ok detail) :
    W.Mirrored (W.step (.join call) net) ⟨call.joiner, inviter, call.inviterUrl, detail⟩ ↔
      W.NamesInviter (W.invite net call).1 ⟨call.joiner, inviter, call.inviterUrl, detail⟩ := by
  have hinvited := grows_invite W net call
  obtain ⟨hdetail, hgrew, hall, hsession⟩ := doJoin_ok hok
  have hself : (W.step (.join call) net) call.joiner = (W.doJoin net call).2 :=
    Function.update_self ..
  have hkey : ∀ hub, W.key (W.step (.join call) net) hub = W.key (W.invite net call).1 hub := by
    intro hub
    show (Function.update (W.invite net call).1 call.joiner (W.doJoin net call).2 hub).publicKeyHex
      W.lib.ed25519 = _
    by_cases hsame : hub = call.joiner
    · subst hsame
      rw [Function.update_self]
      exact hgrew.publicKeyHex W.lib.ed25519
    · rw [Function.update_of_ne hsame]
      rfl
  have hinviterKey := hkey inviter
  constructor
  · intro h
    obtain ⟨row, hfind, hurl⟩ := h.inviter
    rw [hself, hinviterKey] at hfind
    change row.hubUrl = call.inviterUrl at hurl
    obtain ⟨hrow, hrowKey⟩ := Table.find?_eq_some_iff.mp hfind
    unfold NamesInviter
    rcases fromDetail_of_free hgrew hrow with hold | ⟨⟨m, hm, rfl⟩, hfree⟩
    · have hbefore : ((W.invite net call).1 call.joiner).db.allianceMembers.find?
          (detail.id, W.key (W.invite net call).1 inviter) = some row :=
        Table.find?_eq_some_iff.mpr ⟨hold, hrowKey⟩
      simp only [hbefore]
      exact hurl
    · rw [hrowKey] at hfree
      simp only [hfree]
      have hmkey : m.hubPublicKey = W.key (W.invite net call).1 inviter :=
        congrArg Prod.snd hrowKey
      by_cases hown : m.hubPublicKey = W.key (W.invite net call).1 call.joiner
      · have hplaceholder : (m.mirror detail.id
            (((W.invite net call).1 call.joiner).publicKeyHex W.lib.ed25519)).hubUrl = "self" :=
          if_pos hown
        rw [hplaceholder] at hurl
        rw [← hurl, W.address_self] at hinviter
        cases hinviter
      · have hlistedUrl : (m.mirror detail.id
            (((W.invite net call).1 call.joiner).publicKeyHex W.lib.ed25519)).hubUrl = m.hubUrl :=
          if_neg hown
        exact ⟨hmkey ▸ hown, m, hm, hmkey, hlistedUrl.symm.trans hurl⟩
  · intro hnames
    have hgrows : W.Grows (W.invite net call).1 (W.step (.join call) net) :=
      Grows.update (grows_doJoin (hkept.grows hinvited) hinviter hok hnames)
    have hkept' := (hkept.grows hinvited).grows hgrows
    have hrow : ∃ row, (W.doJoin net call).2.db.allianceMembers.find?
        (detail.id, W.key (W.invite net call).1 inviter) = some row ∧
          row.hubUrl = call.inviterUrl := by
      unfold NamesInviter at hnames
      cases hbefore : ((W.invite net call).1 call.joiner).db.allianceMembers.find?
          (detail.id, W.key (W.invite net call).1 inviter) with
      | some row =>
          simp only [hbefore] at hnames
          exact ⟨row, hgrew.find? hbefore, hnames⟩
      | none =>
          simp only [hbefore] at hnames
          obtain ⟨hother, m, hm, hmkey, hmurl⟩ := hnames
          obtain ⟨row, hrow, hrowKey⟩ := Table.has_iff.mp (hall m hm)
          rw [hmkey] at hrowKey
          refine ⟨row, Table.find?_eq_some_iff.mpr ⟨hrow, hrowKey⟩, ?_⟩
          rcases fromDetail_of_free hgrew hrow with hold | ⟨⟨m', hm', rfl⟩, -⟩
          · have hnone := Table.find?_eq_none_iff.mp hbefore row hold
            exact absurd hrowKey hnone
          · have hm'key : m'.hubPublicKey = W.key (W.invite net call).1 inviter :=
              congrArg Prod.snd hrowKey
            have hsame := listed_unique_key hinviter hdetail hm' hm (hm'key.trans hmkey.symm)
            refine (if_neg ?_).trans ((congrArg _ hsame).trans hmurl)
            rw [hm'key]
            exact hother
    obtain ⟨row, hfind, hurl⟩ := hrow
    obtain ⟨hmem, hrowKey⟩ := Table.find?_eq_some_iff.mp hfind
    have hplaceholder := hkept'.placeholder call.joiner
    constructor
    · intro m hm
      rw [hself]
      exact hall m hm
    · refine ⟨row, ?_, hurl⟩
      rw [hself, hinviterKey]
      exact hfind
    · exact hplaceholder
    · exact fun other hother hne =>
        (hkept'.resolved call.joiner other hother).resolve_left (hplaceholder other hother hne)
    · -- Only the inviter answers at the URL, so the session is the one at the inviter.
      obtain ⟨found, hfound, -, hfoundUrl, htoken⟩ :=
        hsession ⟨row, hmem, congrArg Prod.fst hrowKey, hurl⟩
      have hresolved := hkept'.resolved call.joiner found (hself.symm ▸ hfound)
      rw [hfoundUrl] at hresolved
      rcases hresolved with hplace | ⟨other, hother, hotherKey⟩
      · rw [hplace, W.address_self] at hinviter
        cases hinviter
      · cases hinviter.symm.trans hother
        rw [hself]
        show (W.doJoin net call).2.peerTokens (W.key (W.step (.join call) net) inviter) ≠ none
        rw [hotherKey]
        exact htoken

theorem fits_iff (hkept : W.Kept net) (call : AllianceCall H) :
    (∀ j ∈ W.joined call net, W.Mirrored (W.step call net) j) ↔ W.Fits call net := by
  cases call with
  | create hub id now user name => exact iff_of_true (fun j hj => by cases hj) trivial
  | join call =>
      apply forall₂_congr
      intro j hj
      obtain ⟨inviter, detail, hinviter, hok, rfl⟩ := mem_joined_iff.mp hj
      exact mirrored_iff hkept hinviter hok

omit [DecidableEq H] in
theorem kept_empty (hempty : ∀ hub, (net hub).db.allianceMembers = ∅) : W.Kept net := by
  constructor
  · intro hub row hrow
    rw [hempty hub] at hrow
    cases hrow
  · intro hub row hrow
    rw [hempty hub] at hrow
    cases hrow

end AllianceNetwork

/-- In every run of creations and joins that starts without members, the mirrors of all
hubs that have joined are right from then on exactly if every join that succeeds is
through a hub that is named under the URL that is used. -/
theorem allianceMirrors_iff {H : Type} [DecidableEq H] (W : AllianceNetwork H)
    (net : H → AppState) (hempty : ∀ hub, (net hub).db.allianceMembers = ∅)
    (calls : List (AllianceCall H)) :
    (∀ first, first <+: calls → ∀ j ∈ logAll W.step W.joined first net,
      W.Mirrored (runAll W.step first net) j) ↔ Along W.step W.Fits calls net :=
  Along.logged_iff W.Kept (fun j net => W.Mirrored net j)
    (fun _ _ hfits hkept => hkept.grows (AllianceNetwork.grows_step hkept hfits))
    (fun _ _ _ hfits hkept h => h.grows (AllianceNetwork.grows_step hkept hfits)
      (hkept.grows (AllianceNetwork.grows_step hkept hfits)))
    (fun call _ hkept => AllianceNetwork.fits_iff hkept call) (AllianceNetwork.kept_empty hempty)

/-! ## Two hubs -/

namespace AllianceNetwork

instance decidableNamesInviter {H : Type} (W : AllianceNetwork H) (net : H → AppState)
    (j : Joined H) : Decidable (W.NamesInviter net j) :=
  match h : (net j.joiner).db.allianceMembers.find? (j.detail.id, W.key net j.inviter) with
  | some row => decidable_of_iff (row.hubUrl = j.inviterUrl) (by simp only [NamesInviter, h])
  | none => decidable_of_iff (W.key net j.inviter ≠ W.key net j.joiner ∧
      ∃ m ∈ j.detail.members, m.hubPublicKey = W.key net j.inviter ∧ m.hubUrl = j.inviterUrl)
      (by simp only [NamesInviter, h])

instance decidableFits {H : Type} [DecidableEq H] (W : AllianceNetwork H) :
    ∀ (call : AllianceCall H) (net : H → AppState), Decidable (W.Fits call net)
  | .create _ _ _ _ _, _ => inferInstanceAs (Decidable True)
  | .join call, net => inferInstanceAs (Decidable (∀ j ∈ W.joined (.join call) net, _))

end AllianceNetwork

/-- The hub that invites is at `true`. -/
def invitingNetwork : AllianceNetwork Bool where
  lib := hubLib
  address url :=
    if url = "https://a.example" then some true
    else if url = "https://b.example" then some false
    else none
  hubName _ := "hub"
  address_self := by decide

def hubPair (alliances : Table AllianceRow AllianceRow.id) : Bool → AppState
  | true =>
      { hubIdentity := .replicate 32 5
        db := { Db.migrated with
          users := .single ⟨"owner", 0, 0, .approved, none, false, 0, none, .none, none⟩
          userRoles := .single ⟨"owner", "builtin-owner", 0⟩
          alliances := alliances } }
  | false => { hubIdentity := .replicate 32 6, db := .migrated }

/-- The other hub joins, and says under which URL it is reached. -/
def joinHome (ownHubUrl : String) : AllianceCall Bool :=
  .join {
    joiner := false, inviterUrl := "https://a.example", allianceId := homeAlliance,
    inviteToken := allianceSignature.signatureHex, ownHubUrl := ownHubUrl, now := 3,
    inviterNow := 2, login := .ok "token", challenge := fun _ => .unreachable,
    verify := fun _ => .unreachable }

/-- A hub that knows the alliance but has not entered itself.  The join succeeds, and the joining
hub, which gives the URL of the inviter for its own, is registered under it; a hub that joins once
more under a URL that it is known by is the plainer case. -/
theorem allianceMirrors_registered :
    (∀ hub, (hubPair ⟨[⟨homeAlliance, "home", "owner", 1⟩], by decide⟩ hub).db.allianceMembers =
      ∅) ∧
      ∀ first, first <+: [joinHome "https://a.example"] →
        ∀ j ∈ logAll invitingNetwork.step invitingNetwork.joined first
            (hubPair ⟨[⟨homeAlliance, "home", "owner", 1⟩], by decide⟩),
          invitingNetwork.Mirrored (runAll invitingNetwork.step first
            (hubPair ⟨[⟨homeAlliance, "home", "owner", 1⟩], by decide⟩)) j := by
  have hempty : ∀ hub, (hubPair ⟨[⟨homeAlliance, "home", "owner", 1⟩], by decide⟩
      hub).db.allianceMembers = ∅ := by
    intro hub
    cases hub <;> rfl
  exact ⟨hempty, (allianceMirrors_iff invitingNetwork _ hempty [joinHome "https://a.example"]).mpr
    (by decide +kernel)⟩

/-- A hub that creates an alliance, and one that joins it. -/
def createAndJoin : List (AllianceCall Bool) :=
  [.create true homeAlliance 1 "owner" "home", joinHome "https://b.example"]

/-- The join succeeds, and the hub that has created the alliance is known to the other one
as `self`. -/
theorem not_mirrored_first :
    ∃ j ∈ logAll invitingNetwork.step invitingNetwork.joined createAndJoin (hubPair ∅),
      ¬ invitingNetwork.Mirrored (runAll invitingNetwork.step createAndJoin (hubPair ∅)) j := by
  have hjoined : (logAll invitingNetwork.step invitingNetwork.joined createAndJoin
      (hubPair ∅)).length = 1 := by
    decide +kernel
  have hurls : ∀ j ∈ logAll invitingNetwork.step invitingNetwork.joined createAndJoin (hubPair ∅),
      ((runAll invitingNetwork.step createAndJoin (hubPair ∅) j.joiner).db.allianceMembers.find?
        (j.detail.id, invitingNetwork.key (runAll invitingNetwork.step createAndJoin (hubPair ∅))
          j.inviter)).map (·.hubUrl) ≠ some j.inviterUrl := by
    decide +kernel
  obtain ⟨j, hj⟩ := List.exists_mem_of_length_pos (hjoined.symm ▸ Nat.one_pos)
  refine ⟨j, hj, fun h => ?_⟩
  obtain ⟨row, hrow, hurl⟩ := h.inviter
  apply hurls j hj
  rw [hrow, Option.map_some, hurl]

end Voxply.Hub
