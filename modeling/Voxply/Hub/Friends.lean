/-
# Friend lists

A friendship is recorded in two directed rows: what each of the two has recorded about
the other.  A request within the hub is stored as pending and accepted by the other side;
a request that names the friend's hub is stored as accepted.  The list of a user is made
of the accepted rows in either direction.
-/

import Voxply.Hub.Dms
import Voxply.Math.Trace

namespace Voxply.Hub

open Voxply.Math

/-! ## Requests -/

structure FriendRequest where
  targetPublicKey : String
  hubUrl : Option String := none
  displayName : Option String := none
  deriving DecidableEq

structure FriendInfo where
  publicKey : String
  displayName : Option String
  hubUrl : Option String
  since : Int
  deriving DecidableEq

/-- What the listings select: `friend_key`, `friend_hub_url`, `cached_name` and
`created_at`. -/
structure FriendSelection where
  friendKey : String
  friendHubUrl : Option String
  cachedName : Option String
  createdAt : Int
  deriving DecidableEq

/-! ## Statements -/

/-- The row a request is stored in. Adds across hubs skip the pending state. -/
def FriendRequest.row (now : Int) (user : String) (req : FriendRequest) : FriendRow where
  userA := user
  userB := req.targetPublicKey
  status := if req.hubUrl.isSome then .accepted else .pending
  createdAt := now
  hubUrl := req.hubUrl
  displayName := req.displayName

/-- `INSERT OR IGNORE INTO friends`. A taken key is ignored, an unknown user is not. -/
def insertFriend (row : FriendRow) (db : Db) : Except SqlError Db :=
  match db.friends.insert? row with
  | none => .ok db
  | some friends =>
      if db.users.has row.userA then .ok { db with friends := friends } else .error .foreignKey

/-- `user_a = ? AND user_b = ? AND status = 'pending'`. -/
def FriendRow.waits (fromKey user : String) (row : FriendRow) : Bool :=
  row.userA = fromKey && row.userB = user && row.status = .pending

/-- `SET status = 'accepted'`. -/
def FriendRow.accept (row : FriendRow) : FriendRow :=
  { row with status := .accepted }

theorem FriendRow.key_accept (row : FriendRow) : row.accept.key = row.key := rfl

/-- `UPDATE friends`. -/
def acceptFriend (fromKey user : String) (db : Db) : Db :=
  { db with
    friends := db.friends.update (·.waits fromKey user) FriendRow.accept FriendRow.key_accept }

/-- The update, with the number of rows affected. -/
def updateFriend (fromKey user : String) : Handler ℕ :=
  .step (written (acceptFriend fromKey user)) fun s =>
    .ret (s.db.friends.rows.filter (·.waits fromKey user)).length

/-- The row is about the two, in either direction. -/
def FriendRow.between (first second : String) (row : FriendRow) : Bool :=
  (row.userA = first && row.userB = second) || (row.userA = second && row.userB = first)

/-- `DELETE FROM friends`, in both directions. -/
def deleteFriends (first second : String) (db : Db) : Db :=
  { db with friends := db.friends.keep fun row => !row.between first second }

/-- The accepted row as the user sees it, who is one of the two. -/
def FriendRow.seenBy (user : String) (row : FriendRow) : FriendSelection where
  friendKey := if row.userA = user then row.userB else row.userA
  friendHubUrl := if row.userA = user then row.hubUrl else none
  cachedName := if row.userA = user then row.displayName else none
  createdAt := row.createdAt

/-- `(user_a = ? OR user_b = ?) AND status = 'accepted'`. -/
def FriendRow.listedFor (user : String) (row : FriendRow) : Bool :=
  (row.userA = user || row.userB = user) && row.status = .accepted

def Db.selectFriends (db : Db) (user : String) : List FriendSelection :=
  (db.friends.rows.filter (·.listedFor user)).map (·.seenBy user)

def Db.selectPending (db : Db) (user : String) : List FriendSelection :=
  (db.friends.rows.filter fun row => row.userB = user && row.status = .pending).map fun row =>
    ⟨row.userA, none, none, row.createdAt⟩

/-! ## Handlers -/

def sendFriendRequest (now : Int) (user : String) (req : FriendRequest) : Handler StatusCode := do
  .ensure (req.targetPublicKey ≠ user) ⟨.badRequest, "Cannot friend yourself"⟩
  execute (insertFriend (req.row now user))
  pure .created

def acceptFriendRequest (user fromKey : String) : Handler StatusCode := do
  let rowsAffected ← updateFriend fromKey user
  .ensure (rowsAffected ≠ 0) ⟨.notFound, "No pending request from this user"⟩
  pure .ok

def removeFriend (user targetKey : String) : Handler StatusCode := do
  write (deleteFriends user targetKey)
  pure .noContent

/-- The name that was cached, unless it is empty, or the one in the users table. -/
def friendName (friend : FriendSelection) : Handler (Option String) :=
  match friend.cachedName.filter (· ≠ "") with
  | some name => pure (some name)
  | none => fetch (·.displayNameOf friend.friendKey)

def friendInfos : List FriendSelection → Handler (List FriendInfo)
  | [] => pure []
  | friend :: rest => do
      let displayName ← friendName friend
      let infos ← friendInfos rest
      pure (⟨friend.friendKey, displayName, friend.friendHubUrl, friend.createdAt⟩ :: infos)

def listFriends (user : String) : Handler (List FriendInfo) := do
  let rows ← fetch (·.selectFriends user)
  friendInfos rows

/-- Nothing is cached in what is selected here, so the names are those of the users
table. -/
def listPendingRequests (user : String) : Handler (List FriendInfo) := do
  let rows ← fetch (·.selectPending user)
  friendInfos rows

/-! ## Listings -/

/-- The name a friend is shown with. -/
def Db.friendNameOf (db : Db) (friend : FriendSelection) : Option String :=
  (friend.cachedName.filter (· ≠ "")).orElse fun _ => db.displayNameOf friend.friendKey

def Db.friendInfo (db : Db) (friend : FriendSelection) : FriendInfo :=
  ⟨friend.friendKey, db.friendNameOf friend, friend.friendHubUrl, friend.createdAt⟩

theorem run_friendName (friend : FriendSelection) (s : AppState) :
    (friendName friend).run s = (.ok (s.db.friendNameOf friend), s) := by
  unfold friendName Db.friendNameOf
  cases friend.cachedName.filter (· ≠ "") with
  | none => rfl
  | some name => rfl

theorem run_friendInfos (friends : List FriendSelection) (s : AppState) :
    (friendInfos friends).run s = (.ok (friends.map s.db.friendInfo), s) := by
  induction friends with
  | nil => rfl
  | cons friend rest ih =>
      rw [friendInfos, Prog.run_bind_of_ok (run_friendName friend s), Prog.run_bind_of_ok ih]
      rfl

theorem run_listFriends (user : String) (s : AppState) :
    (listFriends user).run s = (.ok ((s.db.selectFriends user).map s.db.friendInfo), s) := by
  rw [listFriends, Prog.run_bind_of_ok (run_fetch _ s)]
  exact run_friendInfos _ s

theorem run_listPendingRequests (user : String) (s : AppState) :
    (listPendingRequests user).run s =
      (.ok ((s.db.selectPending user).map s.db.friendInfo), s) := by
  rw [listPendingRequests, Prog.run_bind_of_ok (run_fetch _ s)]
  exact run_friendInfos _ s

/-! ## Runs -/

/-- A request to change who is whose friend. -/
inductive FriendCall where
  | send (now : Int) (user : String) (req : FriendRequest)
  | accept (user fromKey : String)
  | remove (user targetKey : String)

namespace FriendCall

def handler : FriendCall → Handler StatusCode
  | .send now user req => sendFriendRequest now user req
  | .accept user fromKey => acceptFriendRequest user fromKey
  | .remove user targetKey => removeFriend user targetKey

/-- `a` asks `b`. -/
def Sends (a b : String) : FriendCall → Prop
  | .send _ user req => user = a ∧ req.targetPublicKey = b
  | _ => False

/-- `a` accepts the request of `b`. -/
def Accepts (a b : String) : FriendCall → Prop
  | .accept user fromKey => user = a ∧ fromKey = b
  | _ => False

/-- One of the two removes the other. -/
def Removes (a b : String) : FriendCall → Prop
  | .remove user targetKey => (user = a ∧ targetKey = b) ∨ (user = b ∧ targetKey = a)
  | _ => False

end FriendCall

/-- The hub with the requests it has granted, in order. -/
structure FriendServer where
  state : AppState
  granted : List FriendCall := []

def FriendCall.step (call : FriendCall) (server : FriendServer) : FriendServer where
  state := (call.handler.run server.state).2
  granted := server.granted ++ if (call.handler.run server.state).1.isOk then [call] else []

namespace FriendServer

/-- Since the last removal between the two, `v` has asked `u` or accepted a request of `u`. -/
def Consented (server : FriendServer) (v u : String) : Prop :=
  Since (FriendCall.Removes v u) (FriendCall.Sends v u) server.granted ∨
    Since (FriendCall.Removes v u) (FriendCall.Accepts v u) server.granted

/-- What `list_friends` answers the user: everybody once, nobody the user has not consented
to, and whoever is in an accepted row of the user as that row shows them. -/
def ListRight (server : FriendServer) (v : String) : Prop :=
  ∃ infos, ((listFriends v).run server.state).1 = .ok infos ∧
    (infos.map (·.publicKey)).Nodup ∧
    (∀ info ∈ infos, server.Consented v info.publicKey) ∧
    ∀ own ∈ server.state.db.friends.rows, own.userA = v → own.status = .accepted →
      (∃ info ∈ infos, info.publicKey = own.userB) ∧
        ∀ info ∈ infos, info.publicKey = own.userB → info.hubUrl = own.hubUrl ∧
          info.displayName = (own.displayName.filter (· ≠ "")).orElse fun _ =>
            server.state.db.displayNameOf own.userB

/-- The lists of all users of the hub. -/
def ListsRight (server : FriendServer) : Prop :=
  ∀ v, server.state.db.users.has v = true → server.ListRight v

end FriendServer

/-! ## Records -/

/-- What `a` has recorded about `b`: the status, and whether a hub was named. -/
def Db.friendRecord (db : Db) (a b : String) : Option (FriendStatus × Bool) :=
  (db.friends.find? (a, b)).map fun row => (row.status, row.hubUrl.isSome)

def Db.friendStatus (db : Db) (a b : String) : Option FriendStatus :=
  (db.friendRecord a b).map Prod.fst

theorem friendRecord_of_mem {db : Db} {row : FriendRow} (h : row ∈ db.friends.rows) :
    db.friendRecord row.userA row.userB = some (row.status, row.hubUrl.isSome) := by
  have hfind : db.friends.find? (row.userA, row.userB) = some row :=
    Table.find?_eq_some_iff.mpr ⟨h, rfl⟩
  rw [Db.friendRecord, hfind]
  rfl

theorem exists_of_friendRecord {db : Db} {a b : String} {record : FriendStatus × Bool}
    (h : db.friendRecord a b = some record) :
    ∃ row ∈ db.friends.rows, row.userA = a ∧ row.userB = b ∧
      (row.status, row.hubUrl.isSome) = record := by
  obtain ⟨row, hfind, hrecord⟩ := Option.map_eq_some_iff.mp h
  obtain ⟨hmem, hkey⟩ := Table.find?_eq_some_iff.mp hfind
  obtain ⟨ha, hb⟩ := Prod.mk.inj hkey
  exact ⟨row, hmem, ha, hb, hrecord⟩

theorem friendRecord_of_empty {db : Db} (h : db.friends = ∅) (a b : String) :
    db.friendRecord a b = none := by
  rw [Db.friendRecord, h]
  rfl

theorem friendStatus_of_record {db : Db} {a b : String} {record : FriendStatus × Bool}
    (h : db.friendRecord a b = some record) : db.friendStatus a b = some record.1 := by
  rw [Db.friendStatus, h]
  rfl

theorem friendStatus_of_record_eq {db db' : Db} {a b a' b' : String}
    (h : db.friendRecord a b = db'.friendRecord a' b') :
    db.friendStatus a b = db'.friendStatus a' b' := by
  rw [Db.friendStatus, Db.friendStatus, h]

theorem friends_has_iff {db : Db} {a b : String} :
    db.friends.has (a, b) = true ↔ db.friendRecord a b ≠ none := by
  rw [Db.friendRecord, Ne, Option.map_eq_none_iff, Table.find?_eq_none_iff, Table.has_iff]
  push Not
  rfl

/-! ## What a request does -/

/-- The store with other rows in `friends`. -/
def Db.withFriends (db : Db) (friends : Table FriendRow FriendRow.key) : Db :=
  { db with friends := friends }

@[simp]
theorem users_withFriends (db : Db) (friends : Table FriendRow FriendRow.key) :
    (db.withFriends friends).users = db.users := rfl

@[simp]
theorem friends_withFriends (db : Db) (friends : Table FriendRow FriendRow.key) :
    (db.withFriends friends).friends = friends := rfl

namespace FriendCall

/-- The request is not refused. -/
def Granted (db : Db) : FriendCall → Prop
  | .send _ user req => req.targetPublicKey ≠ user ∧
      (db.friendRecord user req.targetPublicKey ≠ none ∨ db.users.has user = true)
  | .accept user fromKey => db.friendStatus fromKey user = some .pending
  | .remove _ _ => True

theorem granted_remove (db : Db) (user targetKey : String) : (remove user targetKey).Granted db :=
  trivial

/-- The rows that a granted request leaves. -/
def rows (db : Db) : FriendCall → Table FriendRow FriendRow.key
  | .send now user req => db.friends.insertOrIgnore (req.row now user)
  | .accept user fromKey => (acceptFriend fromKey user db).friends
  | .remove user targetKey => (deleteFriends user targetKey db).friends

theorem filter_waits_ne_nil_iff {db : Db} {fromKey user : String} :
    (db.friends.rows.filter (·.waits fromKey user)).length ≠ 0 ↔
      db.friendStatus fromKey user = some .pending := by
  rw [Ne, List.length_eq_zero_iff, List.filter_eq_nil_iff]
  constructor
  · intro h
    push Not at h
    obtain ⟨row, hrow, hwaits⟩ := h
    simp only [FriendRow.waits, Bool.and_eq_true, decide_eq_true_eq] at hwaits
    obtain ⟨⟨rfl, rfl⟩, hpending⟩ := hwaits
    rw [friendStatus_of_record (friendRecord_of_mem hrow), hpending]
  · intro h hnone
    obtain ⟨record, hrecord, hpending⟩ := Option.map_eq_some_iff.mp h
    obtain ⟨row, hrow, ha, hb, rfl⟩ := exists_of_friendRecord hrecord
    apply hnone row hrow
    simp only [FriendRow.waits, Bool.and_eq_true, decide_eq_true_eq]
    exact ⟨⟨ha, hb⟩, hpending⟩

/-- Where nothing waits, nothing is written. -/
theorem acceptFriend_eq_self {db : Db} {fromKey user : String}
    (h : db.friends.rows.filter (·.waits fromKey user) = []) :
    acceptFriend fromKey user db = db := by
  have hrows : db.friends.update (·.waits fromKey user) FriendRow.accept FriendRow.key_accept =
      db.friends := by
    apply Table.update_eq_self
    intro row hrow hwaits
    exact absurd hwaits (List.filter_eq_nil_iff.mp h row hrow)
  unfold acceptFriend
  rw [hrows]

theorem run_updateFriend (fromKey user : String) (s : AppState) :
    (updateFriend fromKey user).run s =
      (.ok (s.db.friends.rows.filter (·.waits fromKey user)).length,
        written (acceptFriend fromKey user) s) := rfl

/-- The requests that a user finds pending are those that can be accepted. -/
theorem granted_accept_iff {s : AppState} {user fromKey : String} :
    (accept user fromKey).Granted s.db ↔
      ∃ infos, ((listPendingRequests user).run s).1 = .ok infos ∧
        ∃ info ∈ infos, info.publicKey = fromKey := by
  have hpending : (∃ row ∈ s.db.friends.rows, row.waits fromKey user = true) ↔
      ∃ info ∈ (s.db.selectPending user).map s.db.friendInfo, info.publicKey = fromKey := by
    simp only [Db.selectPending, List.map_map, List.mem_map, List.mem_filter,
      exists_exists_and_eq_and, FriendRow.waits, Bool.and_eq_true, decide_eq_true_eq]
    constructor
    · rintro ⟨row, hrow, ⟨hfrom, hto⟩, hstatus⟩
      exact ⟨row, ⟨hrow, hto, hstatus⟩, hfrom⟩
    · rintro ⟨row, ⟨hrow, hto, hstatus⟩, hfrom⟩
      exact ⟨row, hrow, ⟨hfrom, hto⟩, hstatus⟩
  rw [run_listPendingRequests, show (accept user fromKey).Granted s.db ↔ _ from
    filter_waits_ne_nil_iff.symm, Ne, List.length_eq_zero_iff, List.filter_eq_nil_iff]
  push Not
  rw [hpending]
  constructor
  · exact fun h => ⟨_, rfl, h⟩
  · rintro ⟨infos, hinfos, h⟩
    cases hinfos
    exact h

theorem insertFriend_of_granted {db : Db} {row : FriendRow}
    (h : db.friendRecord row.userA row.userB ≠ none ∨ db.users.has row.userA = true) :
    insertFriend row db = .ok { db with friends := db.friends.insertOrIgnore row } := by
  unfold insertFriend Table.insertOrIgnore
  cases hinsert : db.friends.insert? row with
  | none => rfl
  | some friends =>
      have huser : db.users.has row.userA = true := by
        apply h.resolve_left
        intro htaken
        obtain ⟨old, hold, hkey⟩ := Table.has_iff.mp (friends_has_iff.mpr htaken)
        exact (Table.insert?_eq_some_iff.mp hinsert).1 old hold hkey
      exact if_pos huser

theorem insertFriend_of_refused {db : Db} {row : FriendRow}
    (hfree : db.friendRecord row.userA row.userB = none) (huser : ¬ db.users.has row.userA = true) :
    insertFriend row db = .error .foreignKey := by
  unfold insertFriend
  have hnot : ¬ db.friends.has row.key = true := fun h => friends_has_iff.mp h hfree
  obtain ⟨friends, hinsert, -⟩ := Table.insert?_of_free (Bool.not_eq_true _ ▸ hnot)
  rw [hinsert]
  exact if_neg huser

theorem step_of_run {call : FriendCall} {server : FriendServer} {code : StatusCode} {s : AppState}
    (h : call.handler.run server.state = (.ok code, s)) :
    call.step server = ⟨s, server.granted ++ [call]⟩ := by
  rw [step, h]
  rfl

theorem step_of_fails {call : FriendCall} {server : FriendServer} {e : ApiError}
    (h : call.handler.run server.state = (.error e, server.state)) :
    call.step server = server := by
  rw [step, h]
  simp [Except.isOk, Except.toBool]

theorem step_of_granted {call : FriendCall} {server : FriendServer}
    (h : call.Granted server.state.db) :
    call.step server =
      ⟨server.state.withDb (server.state.db.withFriends (call.rows server.state.db)),
        server.granted ++ [call]⟩ := by
  cases call with
  | send now user req =>
      apply step_of_run
      show (sendFriendRequest now user req).run server.state = _
      rw [sendFriendRequest, Prog.run_bind_of_ok (Prog.run_ensure_of_pos h.1 _ _),
        Prog.run_bind_of_ok (run_execute_of_ok (insertFriend_of_granted h.2))]
      rfl
  | accept user fromKey =>
      apply step_of_run
      show (acceptFriendRequest user fromKey).run server.state = _
      rw [acceptFriendRequest, Prog.run_bind_of_ok (run_updateFriend fromKey user _),
        Prog.run_bind_of_ok (Prog.run_ensure_of_pos (filter_waits_ne_nil_iff.mpr h) _ _)]
      rfl
  | remove user targetKey => exact step_of_run rfl

theorem step_of_refused {call : FriendCall} {server : FriendServer}
    (h : ¬ call.Granted server.state.db) : call.step server = server := by
  cases call with
  | send now user req =>
      by_cases hother : req.targetPublicKey = user
      · apply step_of_fails
        exact Prog.run_bind_of_error (Prog.run_ensure_of_neg (not_not.mpr hother) _ _)
      · obtain ⟨hfree, huser⟩ := not_or.mp fun hknown => h ⟨hother, hknown⟩
        apply step_of_fails
        show (sendFriendRequest now user req).run server.state = _
        rw [sendFriendRequest, Prog.run_bind_of_ok (Prog.run_ensure_of_pos hother _ _)]
        exact Prog.run_bind_of_error
          (run_execute_of_error (insertFriend_of_refused (not_not.mp hfree) huser))
  | accept user fromKey =>
      -- Nothing waits, so the update writes nothing.
      have hnone : (server.state.db.friends.rows.filter (·.waits fromKey user)).length = 0 :=
        not_not.mp fun hne => h (filter_waits_ne_nil_iff.mp hne)
      have hsame : written (acceptFriend fromKey user) server.state = server.state := by
        rw [written, acceptFriend_eq_self (List.length_eq_zero_iff.mp hnone), withDb_self]
      apply step_of_fails
      show (acceptFriendRequest user fromKey).run server.state = _
      rw [acceptFriendRequest, Prog.run_bind_of_ok (run_updateFriend fromKey user _), hsame,
        hnone]
      rfl
  | remove user targetKey => exact absurd trivial h

end FriendCall

/-! ## What a request records -/

section Records

variable {db : Db} {a b : String}

/-- What is recorded by a request that is new. -/
def FriendRequest.record (req : FriendRequest) : FriendStatus × Bool :=
  if req.hubUrl.isSome then (.accepted, true) else (.pending, false)

theorem record_row (now : Int) (user : String) (req : FriendRequest) :
    ((req.row now user).status, (req.row now user).hubUrl.isSome) = req.record := by
  unfold FriendRequest.row FriendRequest.record
  cases req.hubUrl with
  | none => rfl
  | some url => rfl

theorem friendRecord_send (now : Int) (user : String) (req : FriendRequest) :
    (db.withFriends ((FriendCall.send now user req).rows db)).friendRecord a b =
      if a = user ∧ b = req.targetPublicKey then some ((db.friendRecord a b).getD req.record)
      else db.friendRecord a b := by
  have hkey : (a, b) = (req.row now user).key ↔ a = user ∧ b = req.targetPublicKey :=
    Prod.mk_inj
  rw [Db.friendRecord, friends_withFriends, FriendCall.rows, Table.find?_insertOrIgnore,
    Db.friendRecord]
  simp only [hkey]
  split_ifs with hsame
  · rw [Option.map_some, ← record_row now user req]
    cases db.friends.find? (a, b) with
    | none => rfl
    | some row => rfl
  · rfl

theorem friendRecord_accept {user fromKey : String}
    (hgranted : (FriendCall.accept user fromKey).Granted db) :
    (db.withFriends ((FriendCall.accept user fromKey).rows db)).friendRecord a b =
      if a = fromKey ∧ b = user then (db.friendRecord a b).map fun record => (.accepted, record.2)
      else db.friendRecord a b := by
  have hrows : ((FriendCall.accept user fromKey).rows db).find? (a, b) =
      (db.friends.find? (a, b)).map fun row => if row.waits fromKey user then row.accept else row :=
    Table.find?_update db.friends FriendRow.key_accept (a, b)
  rw [Db.friendRecord, friends_withFriends, hrows, Db.friendRecord]
  cases hfind : db.friends.find? (a, b) with
  | none => simp
  | some row =>
      obtain ⟨ha, hb⟩ := Prod.mk.inj (Table.find?_eq_some_iff.mp hfind).2
      by_cases hsame : a = fromKey ∧ b = user
      · have hpending : row.status = .pending := by
          have hstatus : db.friendStatus fromKey user = some .pending := hgranted
          rw [← hsame.1, ← hsame.2, Db.friendStatus, Db.friendRecord, hfind] at hstatus
          simpa using hstatus
        have hwaits : row.waits fromKey user = true := by
          simp [FriendRow.waits, ha, hb, hsame.1, hsame.2, hpending]
        simp [hsame, hwaits, FriendRow.accept]
      · have hwaits : row.waits fromKey user = false := by
          rw [not_and_or] at hsame
          rcases hsame with hne | hne
          · simp [FriendRow.waits, ha, hne]
          · simp [FriendRow.waits, hb, hne]
        simp [hsame, hwaits]

/-- The two of a request, in either order. -/
def IsPair (first second a b : String) : Prop :=
  (a = first ∧ b = second) ∨ (a = second ∧ b = first)

instance decidableIsPair (first second a b : String) : Decidable (IsPair first second a b) :=
  inferInstanceAs (Decidable (_ ∨ _))

theorem isPair_comm {first second : String} : IsPair first second a b ↔
    IsPair first second b a := by
  unfold IsPair
  tauto

theorem friendRecord_remove (user targetKey : String) :
    (db.withFriends ((FriendCall.remove user targetKey).rows db)).friendRecord a b =
      if IsPair user targetKey a b then none else db.friendRecord a b := by
  have hrows : ((FriendCall.remove user targetKey).rows db).find? (a, b) =
      (db.friends.find? (a, b)).filter fun row => !row.between user targetKey :=
    Table.find?_keep db.friends _ (a, b)
  rw [Db.friendRecord, friends_withFriends, hrows, Db.friendRecord]
  cases hfind : db.friends.find? (a, b) with
  | none => simp
  | some row =>
      obtain ⟨ha, hb⟩ := Prod.mk.inj (Table.find?_eq_some_iff.mp hfind).2
      have hbetween : row.between user targetKey = true ↔ IsPair user targetKey a b := by
        simp [FriendRow.between, IsPair, ha, hb]
      by_cases hpair : IsPair user targetKey a b
      · simp [hpair, hbetween.mpr hpair]
      · simp [hpair, Bool.eq_false_iff.mpr fun h => hpair (hbetween.mp h)]

end Records

/-! ## The invariant of a run -/

/-- What the rows say about the requests that were granted: a row is there exactly if its
first user has asked the second since the last removal, and it is an accepted row of
this hub exactly if the second has accepted since. -/
structure FriendServer.Kept (server : FriendServer) : Prop where
  other : ∀ a, server.state.db.friendRecord a a = none
  known : ∀ a b, server.state.db.friendRecord a b ≠ none → server.state.db.users.has a = true
  across : ∀ a b, server.state.db.friendRecord a b ≠ some (.pending, true)
  sent : ∀ a b, server.state.db.friendRecord a b ≠ none ↔
    Since (FriendCall.Removes a b) (FriendCall.Sends a b) server.granted
  accepted : ∀ a b, server.state.db.friendRecord a b = some (.accepted, false) ↔
    Since (FriendCall.Removes b a) (FriendCall.Accepts b a) server.granted

namespace FriendServer

theorem kept_empty {s : AppState} (h : s.db.friends = ∅) : Kept ⟨s, []⟩ := by
  have hnone := friendRecord_of_empty h
  constructor
  · exact fun a => hnone a a
  · exact fun a b hne => absurd (hnone a b) hne
  · intro a b hsome
    rw [hnone a b] at hsome
    cases hsome
  · intro a b
    exact iff_of_false (fun hne => hne (hnone a b)) not_since_nil
  · intro a b
    refine iff_of_false (fun hsome => ?_) not_since_nil
    rw [hnone a b] at hsome
    cases hsome

variable {server : FriendServer}

theorem Kept.ne_of_record (h : server.Kept) {a b : String}
    (hrecord : server.state.db.friendRecord a b ≠ none) : a ≠ b := by
  rintro rfl
  exact hrecord (h.other a)

theorem Kept.send (h : server.Kept) {now : Int} {user : String} {req : FriendRequest}
    (hgranted : (FriendCall.send now user req).Granted server.state.db) :
    ((FriendCall.send now user req).step server).Kept := by
  rw [FriendCall.step_of_granted hgranted]
  constructor
  · intro a
    show (Db.withFriends _ _).friendRecord a a = none
    rw [friendRecord_send, if_neg fun hsame => hgranted.1 (hsame.2.symm.trans hsame.1)]
    exact h.other a
  · intro a b
    show (Db.withFriends _ _).friendRecord a b ≠ none → server.state.db.users.has a = true
    rw [friendRecord_send]
    split_ifs with hsame
    · rw [hsame.1]
      exact fun _ => hgranted.2.elim (h.known _ _) id
    · exact h.known a b
  · intro a b
    show (Db.withFriends _ _).friendRecord a b ≠ _
    rw [friendRecord_send]
    split_ifs with hsame
    · have hold := h.across a b
      cases hrecord : server.state.db.friendRecord a b with
      | none =>
          rw [Option.getD_none, FriendRequest.record]
          split_ifs <;> simp
      | some record =>
          rw [hrecord] at hold
          exact hold
    · exact h.across a b
  · intro a b
    show (Db.withFriends _ _).friendRecord a b ≠ none ↔ _
    rw [friendRecord_send, since_snoc, ← h.sent a b]
    have hsends : FriendCall.Sends a b (.send now user req) ↔
        a = user ∧ b = req.targetPublicKey := by
      show user = a ∧ req.targetPublicKey = b ↔ _
      tauto
    rw [hsends, and_iff_right (show ¬ FriendCall.Removes a b (.send now user req) from id)]
    split_ifs with hsame
    · exact iff_of_true (by simp) (.inl hsame)
    · rw [or_iff_right hsame]
  · intro a b
    show (Db.withFriends _ _).friendRecord a b = _ ↔ _
    rw [friendRecord_send, since_snoc_of_neither id id, ← h.accepted a b]
    split_ifs with hsame
    · cases server.state.db.friendRecord a b with
      | none =>
          rw [Option.getD_none, FriendRequest.record]
          split_ifs <;> simp
      | some record => rfl
    · rfl

/-- A request that waits has named no hub. -/
theorem Kept.record_of_waiting (h : server.Kept) {user fromKey : String}
    (hgranted : (FriendCall.accept user fromKey).Granted server.state.db) :
    server.state.db.friendRecord fromKey user = some (.pending, false) := by
  obtain ⟨⟨status, named⟩, hrecord, hpending⟩ := Option.map_eq_some_iff.mp hgranted
  change status = .pending at hpending
  subst hpending
  cases named with
  | true => exact absurd hrecord (h.across fromKey user)
  | false => exact hrecord

theorem Kept.accept (h : server.Kept) {user fromKey : String}
    (hgranted : (FriendCall.accept user fromKey).Granted server.state.db) :
    ((FriendCall.accept user fromKey).step server).Kept := by
  have hwaiting := h.record_of_waiting hgranted
  rw [FriendCall.step_of_granted hgranted]
  have hnone : ∀ a b, (server.state.db.withFriends
      ((FriendCall.accept user fromKey).rows server.state.db)).friendRecord a b ≠ none ↔
        server.state.db.friendRecord a b ≠ none := by
    intro a b
    rw [friendRecord_accept hgranted]
    split_ifs <;> simp
  constructor
  · intro a
    exact not_not.mp fun hne => (hnone a a).mp hne (h.other a)
  · exact fun a b hne => h.known a b ((hnone a b).mp hne)
  · intro a b
    show (Db.withFriends _ _).friendRecord a b ≠ _
    rw [friendRecord_accept hgranted]
    split_ifs with hsame
    · simp
    · exact h.across a b
  · intro a b
    rw [since_snoc_of_neither id id, ← h.sent a b]
    exact hnone a b
  · intro a b
    show (Db.withFriends _ _).friendRecord a b = _ ↔ _
    have haccepts : FriendCall.Accepts b a (.accept user fromKey) ↔ a = fromKey ∧ b = user := by
      show user = b ∧ fromKey = a ↔ _
      tauto
    rw [friendRecord_accept hgranted, since_snoc, ← h.accepted a b, haccepts,
      and_iff_right (show ¬ FriendCall.Removes b a (.accept user fromKey) from id)]
    split_ifs with hsame
    · refine iff_of_true ?_ (.inl hsame)
      rw [hsame.1, hsame.2, hwaiting]
      rfl
    · rw [or_iff_right hsame]

theorem Kept.remove (h : server.Kept) (user targetKey : String) :
    ((FriendCall.remove user targetKey).step server).Kept := by
  rw [FriendCall.step_of_granted (FriendCall.granted_remove _ user targetKey)]
  have hremoves : ∀ a b, FriendCall.Removes a b (.remove user targetKey) ↔
      IsPair user targetKey a b := by
    intro a b
    show (user = a ∧ targetKey = b) ∨ (user = b ∧ targetKey = a) ↔ _
    unfold IsPair
    tauto
  constructor
  · intro a
    show (Db.withFriends _ _).friendRecord a a = none
    rw [friendRecord_remove]
    split_ifs
    · rfl
    · exact h.other a
  · intro a b
    show (Db.withFriends _ _).friendRecord a b ≠ none → server.state.db.users.has a = true
    rw [friendRecord_remove]
    split_ifs
    · exact fun hne => absurd rfl hne
    · exact h.known a b
  · intro a b
    show (Db.withFriends _ _).friendRecord a b ≠ _
    rw [friendRecord_remove]
    split_ifs
    · intro hsome
      cases hsome
    · exact h.across a b
  · intro a b
    show (Db.withFriends _ _).friendRecord a b ≠ none ↔ _
    rw [friendRecord_remove, since_snoc, ← h.sent a b, hremoves,
      or_iff_right (show ¬ FriendCall.Sends a b (.remove user targetKey) from id)]
    split_ifs with hpair
    · simp [hpair]
    · simp [hpair]
  · intro a b
    show (Db.withFriends _ _).friendRecord a b = _ ↔ _
    rw [friendRecord_remove, since_snoc, ← h.accepted a b, hremoves, isPair_comm (a := b),
      or_iff_right (show ¬ FriendCall.Accepts b a (.remove user targetKey) from id)]
    split_ifs with hpair
    · simp [hpair]
    · simp [hpair]

theorem Kept.step (h : server.Kept) (call : FriendCall) : (call.step server).Kept := by
  by_cases hgranted : call.Granted server.state.db
  · cases call with
    | send now user req => exact h.send hgranted
    | accept user fromKey => exact h.accept hgranted
    | remove user targetKey => exact h.remove user targetKey
  · rwa [FriendCall.step_of_refused hgranted]

/-- What the requests make of the rows, in every run. -/
theorem kept_runAll {s : AppState} (h : s.db.friends = ∅) (calls : List FriendCall) :
    (runAll FriendCall.step calls ⟨s, []⟩).Kept :=
  invariant_runAll Kept (fun call _ hkept => hkept.step call) calls (kept_empty h)

end FriendServer

/-! ## When the lists are right -/

/-- Of two users of the hub only one has an accepted row about the other, and whoever a
row across hubs is about has asked in turn. -/
def Db.FriendsAgree (db : Db) : Prop :=
  ∀ v, db.users.has v = true → ∀ u,
    ¬ (db.friendStatus v u = some .accepted ∧ db.friendStatus u v = some .accepted) ∧
      (db.friendRecord u v = some (.accepted, true) → db.friendRecord v u ≠ none)

/-- A user who is added across hubs by a new row is waiting for the sender's answer, if
the hub knows the user; and nobody accepts a request from a user who is a friend by a row
of the accepting side. -/
def FriendCall.Agreed (db : Db) : FriendCall → Prop
  | .send _ user req => req.hubUrl.isSome = true → user ≠ req.targetPublicKey →
      db.users.has user = true → db.friendStatus user req.targetPublicKey = none →
        db.users.has req.targetPublicKey = true →
          db.friendStatus req.targetPublicKey user = some .pending
  | .accept user fromKey => db.friendStatus fromKey user = some .pending →
      db.friendStatus user fromKey ≠ some .accepted
  | .remove _ _ => True

theorem friendStatus_eq_none_iff {db : Db} {a b : String} :
    db.friendStatus a b = none ↔ db.friendRecord a b = none :=
  Option.map_eq_none_iff

/-- One record that is made or changed. -/
theorem friendsAgree_set_iff {db db' : Db} {x y : String} {record : FriendStatus × Bool}
    (hagree : db.FriendsAgree) (hne : x ≠ y) (hknown : db.users.has x = true)
    (husers : db'.users = db.users)
    (hset : ∀ a b, db'.friendRecord a b =
      if a = x ∧ b = y then some record else db.friendRecord a b) :
    db'.FriendsAgree ↔ (record.1 = .accepted → db.friendStatus y x ≠ some .accepted) ∧
      (record = (.accepted, true) → db.users.has y = true → db.friendRecord y x ≠ none) := by
  have hforth : db'.friendRecord x y = some record := by rw [hset, if_pos ⟨rfl, rfl⟩]
  have hback : db'.friendRecord y x = db.friendRecord y x := by
    rw [hset, if_neg fun hsame => hne hsame.1.symm]
  unfold Db.FriendsAgree
  rw [husers]
  constructor
  · intro hafter
    constructor
    · intro haccepted hother
      apply (hafter x hknown y).1
      rw [friendStatus_of_record hforth, friendStatus_of_record_eq hback, haccepted]
      exact ⟨rfl, hother⟩
    · intro hacross hy
      rw [← hback]
      exact (hafter y hy x).2 (hacross ▸ hforth)
  · rintro ⟨hsingle, hasked⟩ v hv u
    by_cases hvu : v = x ∧ u = y
    · obtain ⟨rfl, rfl⟩ := hvu
      rw [friendStatus_of_record hforth, friendStatus_of_record_eq hback, hforth]
      exact ⟨fun hboth => hsingle (Option.some.inj hboth.1) hboth.2, by simp⟩
    · by_cases huv : u = x ∧ v = y
      · obtain ⟨rfl, rfl⟩ := huv
        rw [friendStatus_of_record hforth, friendStatus_of_record_eq hback, hforth, hback]
        exact ⟨fun hboth => hsingle (Option.some.inj hboth.2) hboth.1,
          fun hacross => hasked (Option.some.inj hacross) hv⟩
      · have hvu' : db'.friendRecord v u = db.friendRecord v u := by rw [hset, if_neg hvu]
        have huv' : db'.friendRecord u v = db.friendRecord u v := by rw [hset, if_neg huv]
        rw [friendStatus_of_record_eq hvu', friendStatus_of_record_eq huv', hvu', huv']
        exact hagree v hv u

namespace FriendServer

variable {server : FriendServer}

theorem pending_of_not_accepted {a b : String}
    (hrecord : server.state.db.friendRecord a b ≠ none)
    (hstatus : server.state.db.friendStatus a b ≠ some .accepted) :
    server.state.db.friendStatus a b = some .pending := by
  obtain ⟨⟨status, named⟩, hsome⟩ := Option.ne_none_iff_exists'.mp hrecord
  rw [friendStatus_of_record hsome] at hstatus ⊢
  cases status with
  | pending => rfl
  | accepted => exact absurd rfl hstatus

theorem Kept.agree_send_iff (h : server.Kept) (hagree : server.state.db.FriendsAgree) {now : Int}
    {user : String} {req : FriendRequest}
    (hgranted : (FriendCall.send now user req).Granted server.state.db) :
    (server.state.db.withFriends
      ((FriendCall.send now user req).rows server.state.db)).FriendsAgree ↔
        (FriendCall.send now user req).Agreed server.state.db := by
  by_cases hnew : server.state.db.friendRecord user req.targetPublicKey = none
  · have huser := hgranted.2.resolve_left (not_not.mpr hnew)
    have hset : ∀ a b, (server.state.db.withFriends
        ((FriendCall.send now user req).rows server.state.db)).friendRecord a b =
          if a = user ∧ b = req.targetPublicKey then some req.record
          else server.state.db.friendRecord a b := by
      intro a b
      rw [friendRecord_send]
      split_ifs with hsame
      · rw [hsame.1, hsame.2, hnew, Option.getD_none]
      · rfl
    rw [friendsAgree_set_iff hagree hgranted.1.symm huser (users_withFriends _ _) hset]
    unfold FriendRequest.record FriendCall.Agreed
    split_ifs with hnamed
    · constructor
      · intro hright _ _ _ _ htarget
        exact pending_of_not_accepted (hright.2 rfl htarget) (hright.1 rfl)
      · intro hagreed
        have hwaits := hagreed hnamed hgranted.1.symm huser (friendStatus_eq_none_iff.mpr hnew)
        constructor
        · intro _ haccepted
          have htarget := h.known req.targetPublicKey user fun hnone => by
            rw [friendStatus_eq_none_iff.mpr hnone] at haccepted
            cases haccepted
          rw [hwaits htarget] at haccepted
          cases haccepted
        · intro _ htarget hnone
          have hpending := hwaits htarget
          rw [friendStatus_eq_none_iff.mpr hnone] at hpending
          cases hpending
    · exact iff_of_true ⟨by simp, by simp⟩ fun hsome => absurd hsome hnamed
  · -- The row is there already, and stays as it is.
    have hsame : (server.state.db.withFriends
        ((FriendCall.send now user req).rows server.state.db)).FriendsAgree ↔
          server.state.db.FriendsAgree := by
      have hrecord : ∀ a b, (server.state.db.withFriends
          ((FriendCall.send now user req).rows server.state.db)).friendRecord a b =
            server.state.db.friendRecord a b := by
        intro a b
        rw [friendRecord_send]
        split_ifs with hpair
        · obtain ⟨record, hsome⟩ := Option.ne_none_iff_exists'.mp hnew
          rw [hpair.1, hpair.2, hsome, Option.getD_some]
        · rfl
      unfold Db.FriendsAgree Db.friendStatus
      simp only [hrecord, users_withFriends]
    refine iff_of_true (hsame.mpr hagree) fun _ _ _ hfree => ?_
    exact absurd (friendStatus_eq_none_iff.mp hfree) hnew

theorem Kept.agree_accept_iff (h : server.Kept) (hagree : server.state.db.FriendsAgree)
    {user fromKey : String} (hgranted : (FriendCall.accept user fromKey).Granted server.state.db) :
    (server.state.db.withFriends
      ((FriendCall.accept user fromKey).rows server.state.db)).FriendsAgree ↔
        (FriendCall.accept user fromKey).Agreed server.state.db := by
  have hwaiting := h.record_of_waiting hgranted
  have hsome : server.state.db.friendRecord fromKey user ≠ none := by
    rw [hwaiting]
    exact Option.some_ne_none _
  have hset : ∀ a b, (server.state.db.withFriends
      ((FriendCall.accept user fromKey).rows server.state.db)).friendRecord a b =
        if a = fromKey ∧ b = user then some (.accepted, false)
        else server.state.db.friendRecord a b := by
    intro a b
    rw [friendRecord_accept hgranted]
    split_ifs with hsame
    · rw [hsame.1, hsame.2, hwaiting]
      rfl
    · rfl
  rw [friendsAgree_set_iff hagree (h.ne_of_record hsome) (h.known _ _ hsome)
    (users_withFriends _ _) hset]
  constructor
  · exact fun hright _ => hright.1 rfl
  · exact fun hagreed => ⟨fun _ => hagreed hgranted, by simp⟩

theorem agree_remove (hagree : server.state.db.FriendsAgree) (user targetKey : String) :
    (server.state.db.withFriends
      ((FriendCall.remove user targetKey).rows server.state.db)).FriendsAgree := by
  intro v hv u
  by_cases hpair : IsPair user targetKey v u
  · have hnone : (server.state.db.withFriends
        ((FriendCall.remove user targetKey).rows server.state.db)).friendRecord u v = none := by
      rw [friendRecord_remove, if_pos (isPair_comm.mp hpair)]
    rw [friendStatus_eq_none_iff.mpr hnone, hnone]
    simp
  · have hforth : (server.state.db.withFriends
        ((FriendCall.remove user targetKey).rows server.state.db)).friendRecord v u =
          server.state.db.friendRecord v u := by
      rw [friendRecord_remove, if_neg hpair]
    have hback : (server.state.db.withFriends
        ((FriendCall.remove user targetKey).rows server.state.db)).friendRecord u v =
          server.state.db.friendRecord u v := by
      rw [friendRecord_remove, if_neg fun h => hpair (isPair_comm.mp h)]
    rw [friendStatus_of_record_eq hforth, friendStatus_of_record_eq hback, hforth, hback]
    exact hagree v hv u

/-- One request keeps the records in agreement exactly if it meets its condition. -/
theorem Kept.agree_step_iff (h : server.Kept) (hagree : server.state.db.FriendsAgree)
    (call : FriendCall) :
    (call.step server).state.db.FriendsAgree ↔ call.Agreed server.state.db := by
  by_cases hgranted : call.Granted server.state.db
  · rw [FriendCall.step_of_granted hgranted]
    cases call with
    | send now user req => exact h.agree_send_iff hagree hgranted
    | accept user fromKey => exact h.agree_accept_iff hagree hgranted
    | remove user targetKey => exact iff_of_true (agree_remove hagree user targetKey) trivial
  · rw [FriendCall.step_of_refused hgranted]
    refine iff_of_true hagree ?_
    cases call with
    | send now user req =>
        intro _ hother huser
        exact absurd ⟨hother.symm, .inr huser⟩ hgranted
    | accept user fromKey => exact fun hwaits => absurd hwaits hgranted
    | remove user targetKey => trivial

/-! ## Listings and records -/

theorem mem_infos {db : Db} {v : String} {info : FriendInfo} :
    info ∈ (db.selectFriends v).map db.friendInfo ↔
      ∃ row ∈ db.friends.rows, row.listedFor v = true ∧ db.friendInfo (row.seenBy v) = info := by
  simp [Db.selectFriends, and_assoc]

theorem listedFor_iff {v : String} {row : FriendRow} :
    row.listedFor v = true ↔ (row.userA = v ∨ row.userB = v) ∧ row.status = .accepted := by
  simp [FriendRow.listedFor]

/-- A listed row is one of the user about the friend, or the other way round. -/
theorem listed_cases {db : Db} {v : String} {row : FriendRow} (hrow : row ∈ db.friends.rows)
    (hlisted : row.listedFor v = true) :
    (row.userA = v ∧ (row.seenBy v).friendKey = row.userB ∧
      db.friendStatus v (row.seenBy v).friendKey = some .accepted) ∨
    (row.userA ≠ v ∧ row.userB = v ∧ (row.seenBy v).friendKey = row.userA ∧
      db.friendStatus (row.seenBy v).friendKey v = some .accepted) := by
  obtain ⟨hone, hstatus⟩ := listedFor_iff.mp hlisted
  have hrecord := friendStatus_of_record (friendRecord_of_mem hrow)
  rw [hstatus] at hrecord
  by_cases hown : row.userA = v
  · have hkey : (row.seenBy v).friendKey = row.userB := if_pos hown
    rw [hkey]
    exact .inl ⟨hown, rfl, hown ▸ hrecord⟩
  · have hkey : (row.seenBy v).friendKey = row.userA := if_neg hown
    have hother := hone.resolve_left hown
    rw [hkey]
    exact .inr ⟨hown, hother, rfl, hother ▸ hrecord⟩

/-- An accepted row of two different users is listed for both. -/
theorem exists_listed {db : Db} {a b : String} (hstatus : db.friendStatus a b = some .accepted) :
    ∃ row ∈ db.friends.rows, row.userA = a ∧ row.userB = b ∧ row.listedFor a = true ∧
      row.listedFor b = true := by
  obtain ⟨record, hrecord, haccepted⟩ := Option.map_eq_some_iff.mp hstatus
  obtain ⟨row, hrow, ha, hb, rfl⟩ := exists_of_friendRecord hrecord
  exact ⟨row, hrow, ha, hb, listedFor_iff.mpr ⟨.inl ha, haccepted⟩,
    listedFor_iff.mpr ⟨.inr hb, haccepted⟩⟩

theorem Kept.consented_iff (h : server.Kept) {v u : String} :
    server.Consented v u ↔ server.state.db.friendRecord v u ≠ none ∨
      server.state.db.friendRecord u v = some (.accepted, false) := by
  rw [Consented, h.sent v u, h.accepted u v]

/-- Nobody is listed twice for a user who has no accepted row about someone with an
accepted row about the user. -/
theorem listed_unique {db : Db} {v : String}
    (hsingle : ∀ u, ¬ (db.friendStatus v u = some .accepted ∧ db.friendStatus u v = some .accepted))
    {first second : FriendRow} (hfirst : first ∈ db.friends.rows)
    (hsecond : second ∈ db.friends.rows)
    (hfirstListed : first.listedFor v = true) (hsecondListed : second.listedFor v = true)
    (hkey : (first.seenBy v).friendKey = (second.seenBy v).friendKey) : first = second := by
  rcases listed_cases hfirst hfirstListed with ⟨ha, hb, hown⟩ | ⟨-, hb, ha, hother⟩
  · rcases listed_cases hsecond hsecondListed with ⟨ha', hb', -⟩ | ⟨-, -, -, hother'⟩
    · apply db.friends.eq_of_key_eq hfirst hsecond
      rw [FriendRow.key, FriendRow.key, ha, ha', ← hb, ← hb', hkey]
    · exact absurd ⟨hown, hkey ▸ hother'⟩ (hsingle _)
  · rcases listed_cases hsecond hsecondListed with ⟨-, -, hown'⟩ | ⟨-, hb', ha', -⟩
    · exact absurd ⟨hkey ▸ hown', hother⟩ (hsingle _)
    · apply db.friends.eq_of_key_eq hfirst hsecond
      rw [FriendRow.key, FriendRow.key, hb, hb', ← ha, ← ha', hkey]

theorem Kept.listRight_iff (h : server.Kept) (v : String) :
    server.ListRight v ↔ ∀ u,
      ¬ (server.state.db.friendStatus v u = some .accepted ∧
          server.state.db.friendStatus u v = some .accepted) ∧
        (server.state.db.friendRecord u v = some (.accepted, true) →
          server.state.db.friendRecord v u ≠ none) := by
  unfold ListRight
  rw [run_listFriends]
  have hnodup : (server.state.db.friends.rows.filter (·.listedFor v)).Nodup :=
    (List.Nodup.of_map _ server.state.db.friends.nodup).filter _
  have hkeys : (((server.state.db.selectFriends v).map server.state.db.friendInfo).map
      (·.publicKey)) = (server.state.db.friends.rows.filter (·.listedFor v)).map
        fun row => (row.seenBy v).friendKey := by
    rw [Db.selectFriends, List.map_map, List.map_map]
    rfl
  constructor
  · rintro ⟨infos, hinfos, hunique, hconsent, -⟩ u
    cases hinfos
    rw [hkeys, List.nodup_map_iff_inj_on hnodup] at hunique
    constructor
    · rintro ⟨hown, hother⟩
      obtain ⟨own, hownRow, hownA, hownB, hownListed, -⟩ := exists_listed hown
      obtain ⟨other, hotherRow, hotherA, hotherB, -, hotherListed⟩ := exists_listed hother
      have hne : v ≠ u := h.ne_of_record fun hnone => by
        rw [friendStatus_eq_none_iff.mpr hnone] at hown
        cases hown
      have hsame := hunique own (List.mem_filter.mpr ⟨hownRow, hownListed⟩) other
        (List.mem_filter.mpr ⟨hotherRow, hotherListed⟩) (by
          simp [FriendRow.seenBy, hownA, hownB, hotherA, hne.symm])
      exact hne (hownA.symm.trans (hsame ▸ hotherA))
    · intro hacross
      obtain ⟨row, hrow, ha, hb, -, hlisted⟩ := exists_listed (friendStatus_of_record hacross)
      have hne : u ≠ v := h.ne_of_record fun hnone => by
        rw [hnone] at hacross
        cases hacross
      have hkey : (row.seenBy v).friendKey = u := by
        rw [FriendRow.seenBy, if_neg (ha ▸ hne), ha]
      have hasked := hconsent _ (mem_infos.mpr ⟨row, hrow, hlisted, rfl⟩)
      rcases h.consented_iff.mp hasked with hsent | haccepted
      · change server.state.db.friendRecord v (row.seenBy v).friendKey ≠ none at hsent
        rwa [hkey] at hsent
      · change server.state.db.friendRecord (row.seenBy v).friendKey v = _ at haccepted
        rw [hkey, hacross] at haccepted
        cases haccepted
  · intro hright
    have hsingle := fun u => (hright u).1
    refine ⟨_, rfl, ?_, ?_, ?_⟩
    · rw [hkeys, List.nodup_map_iff_inj_on hnodup]
      intro first hfirst second hsecond
      rw [List.mem_filter] at hfirst hsecond
      exact listed_unique hsingle hfirst.1 hsecond.1 hfirst.2 hsecond.2
    · intro info hinfo
      obtain ⟨row, hrow, hlisted, rfl⟩ := mem_infos.mp hinfo
      apply h.consented_iff.mpr
      show server.state.db.friendRecord v (row.seenBy v).friendKey ≠ none ∨
        server.state.db.friendRecord (row.seenBy v).friendKey v = _
      rcases listed_cases hrow hlisted with ⟨-, -, hown⟩ | ⟨-, -, -, hother⟩
      · refine .inl fun hnone => ?_
        rw [friendStatus_eq_none_iff.mpr hnone] at hown
        cases hown
      · obtain ⟨⟨status, named⟩, hrecord, haccepted⟩ := Option.map_eq_some_iff.mp hother
        change status = .accepted at haccepted
        subst haccepted
        cases named with
        | true => exact .inl ((hright _).2 hrecord)
        | false => exact .inr hrecord
    · intro own hown howner haccepted
      have hlisted : own.listedFor v = true := listedFor_iff.mpr ⟨.inl howner, haccepted⟩
      have hkey : (own.seenBy v).friendKey = own.userB := if_pos howner
      constructor
      · exact ⟨_, mem_infos.mpr ⟨own, hown, hlisted, rfl⟩, hkey⟩
      · intro info hinfo hfriend
        obtain ⟨row, hrow, hrowListed, rfl⟩ := mem_infos.mp hinfo
        have hsame : row = own := listed_unique hsingle hrow hown hrowListed hlisted
          (hfriend.trans hkey.symm)
        subst hsame
        constructor
        · exact if_pos howner
        · show server.state.db.friendNameOf (row.seenBy v) = _
          have hname : (row.seenBy v).cachedName = row.displayName := if_pos howner
          rw [Db.friendNameOf, hkey, hname]

/-- The lists are right exactly if the records agree. -/
theorem Kept.listsRight_iff (h : server.Kept) :
    server.ListsRight ↔ server.state.db.FriendsAgree := by
  unfold ListsRight Db.FriendsAgree
  simp only [h.listRight_iff]

end FriendServer

/-- In every state of a run that starts without friends the lists are right exactly if
all requests of the run meet their conditions. -/
theorem friendLists_iff (s : AppState) (hempty : s.db.friends = ∅) (calls : List FriendCall) :
    (∀ first, first <+: calls → (runAll FriendCall.step first ⟨s, []⟩).ListsRight) ↔
      Along FriendCall.step (fun call server => call.Agreed server.state.db) calls ⟨s, []⟩ := by
  have hagree : s.db.FriendsAgree := by
    intro v _ u
    have hforth := friendRecord_of_empty hempty v u
    have hback := friendRecord_of_empty hempty u v
    rw [friendStatus_eq_none_iff.mpr hforth, hback]
    simp
  have hstep : ∀ (call : FriendCall) (server : FriendServer),
      (server.Kept ∧ server.state.db.FriendsAgree) →
        (((call.step server).Kept ∧ (call.step server).state.db.FriendsAgree) ↔
          call.Agreed server.state.db) := by
    intro call server h
    rw [and_iff_right (h.1.step call)]
    exact h.1.agree_step_iff h.2 call
  refine Iff.trans ?_ (Along.invariant_iff _ hstep ⟨FriendServer.kept_empty hempty, hagree⟩)
  apply forall₂_congr
  intro first _
  have hkept := FriendServer.kept_runAll hempty first
  rw [hkept.listsRight_iff, and_iff_right hkept]

/-! ## Two runs -/

/-- A hub with two users. -/
def friendlyHub : AppState where
  db := { users := ⟨[⟨"alice", 0, 0, .approved, none, false, 0, none, .none, none⟩,
    ⟨"bob", 0, 0, .approved, none, false, 0, some "Bob", .none, none⟩], by decide⟩ }

/-- One asks and the other accepts; after a removal both ask, one of them with a URL. -/
def mutualRequests : List FriendCall :=
  [.send 1 "alice" ⟨"bob", none, none⟩, .accept "bob" "alice", .remove "bob" "alice",
    .send 2 "bob" ⟨"alice", none, none⟩,
      .send 3 "alice" ⟨"bob", some "https://a.example", some "B."⟩]

/-- One is added by the other with a URL, although both are here. -/
def addedAcross : List FriendCall :=
  [.send 1 "alice" ⟨"bob", some "https://a.example", none⟩]

/-- Both ask, and both accept. -/
def acceptedTwice : List FriendCall :=
  [.send 1 "alice" ⟨"bob", none, none⟩, .send 2 "bob" ⟨"alice", none, none⟩,
    .accept "bob" "alice", .accept "alice" "bob"]

instance decidableAgreed (db : Db) : ∀ call : FriendCall, Decidable (call.Agreed db)
  | .send _ _ _ => inferInstanceAs (Decidable (_ → _ → _ → _ → _ → _))
  | .accept _ _ => inferInstanceAs (Decidable (_ → _))
  | .remove _ _ => inferInstanceAs (Decidable True)

theorem friendLists_mutualRequests :
    friendlyHub.db.friends = ∅ ∧
      ∀ first, first <+: mutualRequests →
        (runAll FriendCall.step first ⟨friendlyHub, []⟩).ListsRight :=
  ⟨rfl, (friendLists_iff friendlyHub rfl mutualRequests).mpr (by decide +kernel)⟩

/-- Somebody is listed who was never asked or accepted; and somebody is listed twice. -/
theorem not_listsRight_crossed :
    ¬ (runAll FriendCall.step addedAcross ⟨friendlyHub, []⟩).ListsRight ∧
      ¬ (runAll FriendCall.step acceptedTwice ⟨friendlyHub, []⟩).ListsRight := by
  have hempty : friendlyHub.db.friends = ∅ := rfl
  rw [(FriendServer.kept_runAll hempty addedAcross).listsRight_iff,
    (FriendServer.kept_runAll hempty acceptedTwice).listsRight_iff]
  constructor
  · intro hagree
    exact (hagree "bob" (by decide +kernel) "alice").2 (by decide +kernel) (by decide +kernel)
  · intro hagree
    exact (hagree "bob" (by decide +kernel) "alice").1 (by decide +kernel)

end Voxply.Hub
