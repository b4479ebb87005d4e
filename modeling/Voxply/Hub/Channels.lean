/-
# Channels

Channels form a tree: a channel may lie in a category, a category in another
one.  A request that places a channel checks that the new parent is a category,
that the channel is not an ancestor of it and, unless the limit is zero, how
deep the channel would lie.  Both walks up the tree give up after fifty levels;
the search for a cycle then answers that there is none.
-/

import Voxply.Hub.Roles
import Voxply.Math.Forest

namespace Voxply.Hub

open Voxply.Math

/-! ## Requests -/

def manageChannels : String := "manage_channels"

def manageChannelIcons : String := "manage_channel_icons"

structure CreateChannelRequest where
  name : String
  parentId : Option String := none
  isCategory : Bool := false
  description : Option String := none
  channelType : Option String := none
  deriving DecidableEq

structure ChannelResponse where
  id : String
  name : String
  createdBy : String
  parentId : Option String
  isCategory : Bool
  displayOrder : Int
  description : Option String
  icon : Option String
  color : Option String
  customIconSvg : Option String
  createdAt : Int
  channelType : ChannelType
  deriving DecidableEq

/-- A missing field leaves the column alone; `some none` clears it. -/
structure UpdateChannelRequest where
  name : Option String := none
  description : Option String := none
  parentId : Option (Option String) := none
  icon : Option (Option String) := none
  color : Option (Option String) := none
  customIconSvg : Option (Option String) := none
  minTalkPower : Option Int := none
  deriving DecidableEq

/-! ## What the handlers read -/

/-- `SELECT parent_id FROM channels WHERE id = ?`, flattened. -/
def Db.parentOf (db : Db) (id : String) : Option String :=
  (db.channels.find? id).bind (·.parentId)

/-- `SELECT is_category FROM channels WHERE id = ?`. -/
def Db.category (db : Db) (id : String) : Option Bool :=
  (db.channels.find? id).map (·.isCategory)

/-- `read_max_depth`. -/
def Db.maxChannelDepth (db : Db) : ℕ :=
  ((db.setting "max_channel_depth").bind (parseUnsigned (2 ^ 32))).getD 0

/-- `SELECT COALESCE(MAX(display_order), -1) + 1 FROM channels`. -/
def Db.nextDisplayOrder (db : Db) : Int :=
  ((db.channels.rows.map (·.displayOrder)).max?).getD (-1) + 1

def depthLimitError : ApiError :=
  ⟨.badRequest, "Channel nesting depth exceeds safety limit"⟩

/-- The loop of `node_depth`. It ends with an answer or at the safety limit; the
number of rounds only bounds the recursion. -/
def nodeDepthLoop : ℕ → ℕ → String → Handler ℕ
  | 0, depth, _ => pure depth
  | rounds + 1, depth, current => do
      let parent ← fetch (·.parentOf current)
      match parent with
      | none => pure depth
      | some p =>
          .ensure (depth + 1 ≤ 50) depthLimitError
          nodeDepthLoop rounds (depth + 1) p

/-- `node_depth`: the depth of a new item under the given parent. -/
def nodeDepth : Option String → Handler ℕ
  | none => pure 0
  | some pid => nodeDepthLoop 50 1 pid

/-- The loop of `is_ancestor`, with the rounds that are left. -/
def isAncestorLoop (candidate : String) : ℕ → String → Handler Bool
  | 0, _ => pure false
  | rounds + 1, current => do
      let parent ← fetch (·.parentOf current)
      match parent with
      | none => pure false
      | some p => if p = candidate then pure true else isAncestorLoop candidate rounds p

/-- `is_ancestor`. -/
def isAncestor (candidate start : String) : Handler Bool :=
  isAncestorLoop candidate 50 start

/-! ## Statements -/

/-- `INSERT INTO channels`. -/
def insertChannel (row : ChannelRow) (db : Db) : Except SqlError Db :=
  if db.channels.rows.any (·.name = row.name) then .error (.unique "channels.name")
  else match db.channels.insert? row with
    | none => .error (.primaryKey "channels.id")
    | some channels =>
        if db.users.has row.createdBy ∧ ∀ p ∈ row.parentId, channels.has p then
          .ok { db with channels := channels }
        else .error .foreignKey

/-- The columns that an update sets. -/
def UpdateChannelRequest.apply (req : UpdateChannelRequest) (row : ChannelRow) : ChannelRow :=
  { row with
    description := req.description.or row.description
    icon := req.icon.getD row.icon
    color := req.color.getD row.color
    customIconSvg := req.customIconSvg.getD row.customIconSvg
    parentId := req.parentId.getD row.parentId
    minTalkPower := req.minTalkPower.getD row.minTalkPower }

/-- `UPDATE channels SET … WHERE id = ?`. -/
def updateChannelRow (id : String) (req : UpdateChannelRequest) (db : Db) : Except SqlError Db :=
  let channels := db.channels.update (·.id = id) req.apply fun _ => rfl
  if ∀ link ∈ req.parentId, ∀ p ∈ link, channels.has p then .ok { db with channels := channels }
  else .error .foreignKey

/-- `UPDATE channels SET name = ? WHERE id = ?`. -/
def renameChannel (id name : String) (db : Db) : Except SqlError Db :=
  if db.channels.rows.any fun row => row.id ≠ id ∧ row.name = name then
    .error (.unique "channels.name")
  else .ok { db with
    channels := db.channels.update (·.id = id) (fun row => { row with name := name }) fun _ => rfl }

/-- `UPDATE channels SET display_order = ? WHERE id = ?`. -/
def setDisplayOrder (id : String) (index : ℕ) (db : Db) : Db :=
  { db with
    channels := db.channels.update (·.id = id)
      (fun row => { row with displayOrder := index }) fun _ => rfl }

/-- `DELETE FROM channels WHERE id = ?`. Rows of tables outside this model may
refer to the channel, and then the deletion is refused. -/
def deleteChannelRow (referenced : Bool) (id : String) (db : Db) : Except SqlError Db :=
  if referenced then .error .foreignKey
  else .ok { db with channels := db.channels.keep (·.id ≠ id) }

/-- `INSERT INTO hub_settings … ON CONFLICT DO UPDATE`. -/
def upsertSetting (key value : String) (db : Db) : Db :=
  { db with
    hubSettings := db.hubSettings.upsert ⟨key, value⟩ (fun row => { row with value := value })
      fun _ => rfl }

/-! ## Handlers -/

/-- The parent named by a request has to be a category. -/
def requireCategory (parentId : String) : Handler Unit := do
  let parentIsCategory ← fetch (·.category parentId)
  match parentIsCategory with
  | none => .fail ⟨.notFound, "Parent channel not found"⟩
  | some false => .fail ⟨.badRequest, "Parent must be a category"⟩
  | some true => pure ()

def depthExceeded : ApiError := ⟨.badRequest, "depth_exceeded"⟩

def categoryAtMaxDepth : ApiError := ⟨.badRequest, "category_at_max_depth"⟩

/-- The type of a new channel; categories are always `text`. -/
def resolveChannelType (req : CreateChannelRequest) : Except ApiError ChannelType :=
  if req.isCategory then .ok .text
  else match req.channelType with
    | none => .ok .text
    | some "text" => .ok .text
    | some "forum" => .ok .forum
    | some other => .error ⟨.badRequest, "unknown channel_type: " ++ other⟩

/-- How `create_channel` reports a refused insert. -/
def channelInsertError (name : String) (e : SqlError) : ApiError :=
  if e.mentionsUnique then ⟨.conflict, "Channel '" ++ name ++ "' already exists"⟩ else dbError e

/-- The depth check of `create_channel`. -/
def checkCreateDepth (maxDepth : ℕ) (req : CreateChannelRequest) : Handler Unit := do
  let newDepth ← nodeDepth req.parentId
  .ensure (newDepth ≤ maxDepth - 1) depthExceeded
  .ensure (¬ (req.isCategory ∧ maxDepth - 1 ≤ newDepth)) categoryAtMaxDepth

/-- `create_channel`. The new identifier is drawn by the caller. -/
def createChannel (id : String) (now : Int) (user : String) (req : CreateChannelRequest) :
    Handler (StatusCode × ChannelResponse) := do
  let perms ← userPermissions user
  .ofExcept (perms.require manageChannels)
  .whenSome req.parentId requireCategory
  -- Enforce max_channel_depth
  let maxDepth ← fetch (·.maxChannelDepth)
  .when (0 < maxDepth) (checkCreateDepth maxDepth req)
  let channelType ← .ofExcept (resolveChannelType req)
  let nextOrder ← fetch (·.nextDisplayOrder)
  executeOr (channelInsertError req.name) (insertChannel
    { id := id, name := req.name, createdBy := user, parentId := req.parentId,
      isCategory := req.isCategory, displayOrder := nextOrder, description := req.description,
      channelType := channelType, createdAt := now })
  pure (.created,
    { id := id, name := req.name, createdBy := user, parentId := req.parentId,
      isCategory := req.isCategory, displayOrder := nextOrder, description := req.description,
      icon := none, color := none, customIconSvg := none, createdAt := now,
      channelType := channelType })

/-- The depth check of `update_channel`. -/
def checkMoveDepth (maxDepth : ℕ) (channelId parentId : String) : Handler Unit := do
  let parentDepth ← nodeDepth (some parentId)
  .ensure (parentDepth + 1 ≤ maxDepth - 1) depthExceeded
  let isCat ← fetch (·.category channelId)
  match isCat with
  | none => .fail rowNotFound
  | some isCat =>
      .ensure (¬ (isCat = true ∧ maxDepth - 1 ≤ parentDepth + 1)) categoryAtMaxDepth

/-- The checks of `update_channel` on a new parent. -/
def checkMove (channelId parentId : String) : Handler Unit := do
  .ensure (parentId ≠ channelId) ⟨.badRequest, "A channel can't be its own parent"⟩
  requireCategory parentId
  -- Server-side cycle detection
  let cyclic ← isAncestor channelId parentId
  .ensure (cyclic = false) ⟨.badRequest, "Cannot move a channel into its own descendant"⟩
  -- Depth enforcement
  let maxDepth ← fetch (·.maxChannelDepth)
  .when (0 < maxDepth) (checkMoveDepth maxDepth channelId parentId)

/-- How `update_channel` reports a refused renaming. -/
def channelRenameError (e : SqlError) : ApiError :=
  if e.mentionsUnique then ⟨.conflict, "A channel with that name already exists"⟩ else dbError e

/-- The permissions that an update needs. -/
def UpdateChannelRequest.authorize (req : UpdateChannelRequest) (perms : UserPermissions) :
    Except ApiError Unit := do
  if req.name.isSome ∨ req.description.isSome ∨ req.parentId.isSome then
    perms.require manageChannels
  if req.icon.isSome ∨ req.color.isSome ∨ req.customIconSvg.isSome then
    perms.require manageChannelIcons
  if req.minTalkPower.isSome then
    perms.require admin

/-- Whether `update_channel` sends its first statement. -/
def UpdateChannelRequest.needsUpdate (req : UpdateChannelRequest) : Prop :=
  req.description.isSome ∨ req.icon.isSome ∨ req.color.isSome ∨ req.customIconSvg.isSome ∨
    req.parentId.isSome ∨ req.minTalkPower.isSome
  deriving Decidable

/-- `update_channel`. The name is checked after the other columns have been
written. -/
def updateChannel (user channelId : String) (req : UpdateChannelRequest) :
    Handler StatusCode := do
  let perms ← userPermissions user
  let present ← fetch (·.channels.has channelId)
  .ensure (present = true) ⟨.notFound, "Channel not found"⟩
  .ofExcept (req.authorize perms)
  .whenSome (req.parentId.join) (checkMove channelId)
  .when req.needsUpdate (execute (updateChannelRow channelId req))
  .whenSome req.name fun name => do
    .ensure (trim name ≠ "") ⟨.badRequest, "Channel name cannot be empty"⟩
    executeOr channelRenameError (renameChannel channelId (trim name))
  pure .ok

/-- `reorder_channels`. -/
def reorderChannels (user : String) (channelIds : List String) : Handler StatusCode := do
  let perms ← userPermissions user
  .ofExcept (perms.require manageChannels)
  .each channelIds.zipIdx fun (id, index) => write (setDisplayOrder id index)
  pure .ok

/-- `delete_channel`. The tables it cleans up first are not part of this
model. -/
def deleteChannel (referenced : Bool) (user channelId : String) : Handler StatusCode := do
  let perms ← userPermissions user
  .ofExcept (perms.require manageChannels)
  let present ← fetch (·.channels.has channelId)
  .ensure (present = true) ⟨.notFound, "Channel not found"⟩
  let childCount ← fetch fun db => (db.channels.rows.filter (·.parentId = some channelId)).length
  .ensure (childCount = 0) ⟨.conflict, "Cannot delete: category still has channels"⟩
  execute (deleteChannelRow referenced channelId)
  pure .noContent

/-- `patch_channel_depth`. -/
def patchChannelDepth (user : String) (maxChannelDepth : UInt32) : Handler StatusCode := do
  let perms ← userPermissions user
  .ofExcept (perms.require admin)
  write (upsertSetting "max_channel_depth" (toString maxChannelDepth))
  pure .ok

/-! ## The walks, run alone -/

theorem nodeDepthLoop_reads (rounds depth : ℕ) (current : String) :
    (nodeDepthLoop rounds depth current).Reads := by
  induction rounds generalizing depth current with
  | zero => exact fun _ => rfl
  | succ rounds ih =>
      apply (reads_fetch _).bind
      intro parent
      cases parent with
      | none => exact fun _ => rfl
      | some p => exact Prog.reads_ensure.bind fun _ => ih _ p

theorem nodeDepth_reads (link : Option String) : (nodeDepth link).Reads := by
  cases link with
  | none => exact fun _ => rfl
  | some p => exact nodeDepthLoop_reads 50 1 p

/-- The depth of a new item under a parent, or at the top. -/
def Db.DepthUnder (db : Db) : Option String → ℕ → Prop
  | none, n => n = 0
  | some p, n => ∃ m, n = m + 1 ∧ HasDepth db.parentOf p m

/-- A round is left as long as the limit has not been reached. -/
theorem nodeDepthLoop_eq_ok {rounds depth : ℕ} {current : String} {s : AppState} {n : ℕ}
    (hrounds : 0 < rounds) (hlimit : depth + rounds = 51)
    (h : ((nodeDepthLoop rounds depth current).run s).1 = .ok n) :
    ∃ m, n = depth + m ∧ HasDepth s.db.parentOf current m ∧ (m = 0 ∨ n ≤ 50) := by
  induction rounds generalizing depth current with
  | zero => exact absurd hrounds (Nat.lt_irrefl 0)
  | succ rounds ih =>
      rw [nodeDepthLoop, Prog.run_bind_of_ok (run_fetch _ s)] at h
      cases hparent : s.db.parentOf current with
      | none =>
          rw [hparent] at h
          cases h
          exact ⟨0, rfl, hasDepth_zero_iff.mpr hparent, .inl rfl⟩
      | some p =>
          rw [hparent] at h
          dsimp only at h
          by_cases hnext : depth + 1 ≤ 50
          · rw [Prog.run_bind_of_ok (Prog.run_ensure_of_pos hnext _ s)] at h
            obtain ⟨m, rfl, hm, hle⟩ := ih (by omega) (by omega) h
            refine ⟨m + 1, by omega, (hasDepth_succ_iff hparent).mpr hm, .inr ?_⟩
            omega
          · rw [Prog.run_bind_of_error (Prog.run_ensure_of_neg hnext _ s)] at h
            cases h

/-- What `node_depth` answers is the depth. -/
theorem nodeDepth_eq_ok {link : Option String} {s : AppState} {n : ℕ}
    (h : ((nodeDepth link).run s).1 = .ok n) : s.db.DepthUnder link n ∧ n ≤ 50 := by
  cases link with
  | none =>
      cases h
      exact ⟨rfl, Nat.zero_le 50⟩
  | some p =>
      obtain ⟨m, rfl, hm, hle⟩ := nodeDepthLoop_eq_ok (by decide) rfl h
      exact ⟨⟨m, Nat.add_comm 1 m, hm⟩, by omega⟩

/-- The search for a cycle sees the ancestors up to its last round. -/
theorem run_isAncestorLoop (candidate : String) (rounds : ℕ) (current : String) (s : AppState) :
    (isAncestorLoop candidate rounds current).run s =
      (.ok (decide (∃ k < rounds, climb s.db.parentOf (k + 1) current = some candidate)), s) := by
  induction rounds generalizing current with
  | zero => simp [isAncestorLoop]
  | succ rounds ih =>
      rw [isAncestorLoop, Prog.run_bind_of_ok (run_fetch _ s)]
      cases hparent : s.db.parentOf current with
      | none => simp [climb, hparent]
      | some p =>
          dsimp only
          have hclimb (k : ℕ) : climb s.db.parentOf (k + 1) current = climb s.db.parentOf k p :=
            climb_succ_of_parent hparent
          simp only [hclimb]
          split_ifs with hp
          · have hfirst : ∃ k < rounds + 1, climb s.db.parentOf k p = some candidate :=
              ⟨0, Nat.succ_pos rounds, by rw [climb, hp]⟩
            rw [decide_eq_true hfirst]
            rfl
          · rw [ih, Prod.mk.injEq, Except.ok.injEq, decide_eq_decide]
            refine ⟨?_, rfl⟩
            constructor
            · rintro ⟨k, hk, hfound⟩
              exact ⟨k + 1, Nat.succ_lt_succ hk, hfound⟩
            · rintro ⟨_ | k, hk, hfound⟩
              · rw [climb, Option.some.injEq] at hfound
                exact absurd hfound hp
              · exact ⟨k, Nat.lt_of_succ_lt_succ hk, hfound⟩

theorem isAncestor_reads (candidate start : String) : (isAncestor candidate start).Reads := by
  intro s
  rw [isAncestor, run_isAncestorLoop]

/-- A search that finds no cycle has ruled out the fifty lowest ancestors. -/
theorem climb_ne_of_isAncestor {candidate start : String} {s : AppState}
    (h : (isAncestor candidate start).run s = (.ok false, s)) :
    ∀ k < 50, climb s.db.parentOf (k + 1) start ≠ some candidate := by
  rw [isAncestor, run_isAncestorLoop, Prod.mk.injEq, Except.ok.injEq, decide_eq_false_iff_not] at h
  intro k hk hfound
  exact h.1 ⟨k, hk, hfound⟩

end Voxply.Hub
