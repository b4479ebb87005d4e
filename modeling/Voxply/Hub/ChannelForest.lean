/-
# The channel tree over whole runs

Administrators create, move, reorder and delete channels and change the depth
limit.  What a request does to the tree is classified once: it leaves the links
alone, adds a node, replaces the link of one node, or removes a node without
children.  Both results below are invariants of this classification.

The tree stays a forest as long as no channel is moved under one of its
descendants that lies more than fifty levels below it while there is no depth
limit: with a limit the walk that measures the depth refuses such a parent.
The depth limit is kept as long as the channels below a moved one still fit,
since the check looks at the moved channel alone.
-/

import Voxply.Hub.Channels
import Voxply.Math.Trace

namespace Voxply.Hub

open Voxply.Math

/-! ## Requests -/

/-- The requests that change channels or their depth limit. -/
inductive ChannelRequest where
  | create (id : String) (now : Int) (user : String) (req : CreateChannelRequest)
  | update (user channelId : String) (req : UpdateChannelRequest)
  | reorder (user : String) (channelIds : List String)
  | delete (referenced : Bool) (user channelId : String)
  | patchDepth (user : String) (maxChannelDepth : UInt32)
  deriving DecidableEq

/-- The state that a request leaves. -/
def ChannelRequest.exec : ChannelRequest → AppState → AppState
  | .create id now user req, s => ((createChannel id now user req).run s).2
  | .update user channelId req, s => ((updateChannel user channelId req).run s).2
  | .reorder user channelIds, s => ((reorderChannels user channelIds).run s).2
  | .delete referenced user channelId, s => ((deleteChannel referenced user channelId).run s).2
  | .patchDepth user maxChannelDepth, s => ((patchChannelDepth user maxChannelDepth).run s).2

/-- The channel and the parent under which a request asks to move it. -/
def ChannelRequest.move? : ChannelRequest → Option (String × String)
  | .update _ channelId req => req.parentId.join.map (channelId, ·)
  | _ => none

/-! ## What a request does to the tree -/

/-- The depth check of a placement, where the handler adds `slack` to the depth
that it has measured. -/
def Db.WithinDepth (db : Db) (link : Option String) (isCategory : Bool) (slack : ℕ) : Prop :=
  0 < db.maxChannelDepth → ∃ n ≤ 50, db.DepthUnder link n ∧
    n + slack ≤ db.maxChannelDepth - 1 ∧
    (isCategory = true → n + slack < db.maxChannelDepth - 1)

/-- The move that a request carries out: the one it asks for, if the checks let it pass. -/
def ChannelRequest.Moves (request : ChannelRequest) (s : AppState) (id p : String) : Prop :=
  ∃ user req, request = .update user id req ∧ req.parentId.join = some p ∧
    s.db.channels.has id = true ∧ req.authorize (s.db.userPermissions user) = .ok () ∧
    (checkMove id p).run s = (.ok (), s)

theorem ChannelRequest.Moves.move?_eq {request : ChannelRequest} {s : AppState} {id p : String}
    (h : request.Moves s id p) : request.move? = some (id, p) := by
  obtain ⟨user, req, rfl, hlink, -⟩ := h
  rw [move?, hlink, Option.map_some]

/-- The links and the categories after a request. -/
inductive ChannelEffect (request : ChannelRequest) (s : AppState) (db' : Db) : Prop
  | kept (hparent : db'.parentOf = s.db.parentOf) (hcategory : db'.category = s.db.category)
  | created (id : String) (link : Option String) (isCategory : Bool)
      (hfree : s.db.category id = none) (hlink : ∀ p ∈ link, s.db.category p = some true)
      (hdepth : s.db.WithinDepth link isCategory 0)
      (hparent : db'.parentOf = Function.update s.db.parentOf id link)
      (hcategory : db'.category = Function.update s.db.category id (some isCategory))
  | lifted (id : String) (hparent : db'.parentOf = Function.update s.db.parentOf id none)
      (hcategory : db'.category = s.db.category)
  | moved (id p : String) (isCategory : Bool) (hmoves : request.Moves s id p)
      (hknown : s.db.category id = some isCategory) (hne : p ≠ id)
      (hlink : s.db.category p = some true)
      (hsearched : ∀ k < 50, climb s.db.parentOf (k + 1) p ≠ some id)
      (hdepth : s.db.WithinDepth (some p) isCategory 1)
      (hparent : db'.parentOf = Function.update s.db.parentOf id (some p))
      (hcategory : db'.category = s.db.category)
  | deleted (id : String) (hchildless : ∀ child, s.db.parentOf child ≠ some id)
      (hparent : db'.parentOf = Function.update s.db.parentOf id none)
      (hcategory : db'.category = Function.update s.db.category id none)

/-- Whatever a request does to the tree before it changes other columns. -/
theorem ChannelEffect.kept_after {request : ChannelRequest} {s : AppState} {db₁ db' : Db}
    (h : ChannelEffect request s db₁) (hparent : db'.parentOf = db₁.parentOf)
    (hcategory : db'.category = db₁.category) : ChannelEffect request s db' := by
  cases h with
  | kept hp hc => exact .kept (hparent.trans hp) (hcategory.trans hc)
  | created id link isCategory hfree hlink hdepth hp hc =>
      exact .created id link isCategory hfree hlink hdepth (hparent.trans hp) (hcategory.trans hc)
  | lifted id hp hc => exact .lifted id (hparent.trans hp) (hcategory.trans hc)
  | moved id p isCategory hmoves hknown hne hlink hsearched hdepth hp hc =>
      exact .moved id p isCategory hmoves hknown hne hlink hsearched hdepth
        (hparent.trans hp) (hcategory.trans hc)
  | deleted id hchildless hp hc =>
      exact .deleted id hchildless (hparent.trans hp) (hcategory.trans hc)

theorem ChannelEffect.rfl' {request : ChannelRequest} {s : AppState} :
    ChannelEffect request s s.db :=
  .kept rfl rfl

section Rows

variable {db db' : Db} {id : String}

theorem category_eq_none_iff : db.category id = none ↔ db.channels.has id = false := by
  rw [Db.category, Option.map_eq_none_iff, Table.find?_eq_none_iff, Table.has_eq_false_iff]

/-- Updates of other columns do not touch the tree. -/
theorem shape_update (f : ChannelRow → ChannelRow) (hkey : ∀ row, (f row).id = row.id)
    (hchannels : db'.channels = db.channels.update (·.id = id) f hkey)
    (hparent : ∀ row, (f row).parentId = row.parentId)
    (hcategory : ∀ row, (f row).isCategory = row.isCategory) :
    db'.parentOf = db.parentOf ∧ db'.category = db.category := by
  constructor
  · funext other
    rw [Db.parentOf, Db.parentOf, hchannels, Table.find?_update]
    cases db.channels.find? other with
    | none => rfl
    | some row => by_cases hrow : row.id = id <;> simp [hrow, hparent]
  · funext other
    rw [Db.category, Db.category, hchannels, Table.find?_update]
    cases db.channels.find? other with
    | none => rfl
    | some row => by_cases hrow : row.id = id <;> simp [hrow, hcategory]

/-- An update of the link of a channel that exists. -/
theorem shape_relink {link : Option String} (f : ChannelRow → ChannelRow)
    (hkey : ∀ row, (f row).id = row.id)
    (hchannels : db'.channels = db.channels.update (·.id = id) f hkey)
    (hpresent : db.channels.has id = true) (hparent : ∀ row, (f row).parentId = link)
    (hcategory : ∀ row, (f row).isCategory = row.isCategory) :
    db'.parentOf = Function.update db.parentOf id link ∧ db'.category = db.category := by
  constructor
  · funext other
    rw [Db.parentOf, hchannels, Table.find?_update]
    by_cases hother : other = id
    · subst hother
      cases hfind : db.channels.find? other with
      | none =>
          rw [Table.find?_eq_none_iff, ← Table.has_eq_false_iff, hpresent] at hfind
          cases hfind
      | some row =>
          have hid := (Table.find?_eq_some_iff.mp hfind).2
          simp [hid, hparent]
    · rw [Function.update_of_ne hother, Db.parentOf]
      cases hfind : db.channels.find? other with
      | none => rfl
      | some row =>
          have hid : row.id ≠ id := (Table.find?_eq_some_iff.mp hfind).2 ▸ hother
          simp [hid]
  · funext other
    rw [Db.category, Db.category, hchannels, Table.find?_update]
    cases db.channels.find? other with
    | none => rfl
    | some row => by_cases hrow : row.id = id <;> simp [hrow, hcategory]

theorem shape_insert {row : ChannelRow} (hrows : db'.channels.rows = db.channels.rows ++ [row]) :
    db'.parentOf = Function.update db.parentOf row.id row.parentId ∧
      db'.category = Function.update db.category row.id (some row.isCategory) := by
  constructor
  · funext other
    rw [Db.parentOf, Table.find?_of_append hrows]
    by_cases hother : other = row.id
    · rw [if_pos hother, hother, Function.update_self, Option.bind_some]
    · rw [if_neg hother, Function.update_of_ne hother, Db.parentOf]
  · funext other
    rw [Db.category, Table.find?_of_append hrows]
    by_cases hother : other = row.id
    · rw [if_pos hother, hother, Function.update_self, Option.map_some]
    · rw [if_neg hother, Function.update_of_ne hother, Db.category]

theorem shape_delete (hchannels : db'.channels = db.channels.keep (·.id ≠ id)) :
    db'.parentOf = Function.update db.parentOf id none ∧
      db'.category = Function.update db.category id none := by
  have hfind (other : String) : db'.channels.find? other =
      if other = id then none else db.channels.find? other := by
    rw [hchannels, Table.find?_keep]
    cases hfind : db.channels.find? other with
    | none => simp
    | some row =>
        have hid := (Table.find?_eq_some_iff.mp hfind).2
        by_cases hother : other = id <;> simp [hid, hother]
  constructor
  · funext other
    rw [Db.parentOf, hfind]
    by_cases hother : other = id
    · rw [if_pos hother, hother, Function.update_self, Option.bind_none]
    · rw [if_neg hother, Function.update_of_ne hother, Db.parentOf]
  · funext other
    rw [Db.category, hfind]
    by_cases hother : other = id
    · rw [if_pos hother, hother, Function.update_self, Option.map_none]
    · rw [if_neg hother, Function.update_of_ne hother, Db.category]

theorem insertChannel_eq_ok {row : ChannelRow} (h : insertChannel row db = .ok db') :
    db.channels.has row.id = false ∧ db'.channels.rows = db.channels.rows ++ [row] := by
  unfold insertChannel at h
  split_ifs at h
  cases hinsert : db.channels.insert? row with
  | none => simp [hinsert] at h
  | some channels =>
      rw [hinsert] at h
      dsimp only at h
      split_ifs at h
      cases h
      obtain ⟨hfree, hrows⟩ := Table.insert?_eq_some_iff.mp hinsert
      exact ⟨Table.has_eq_false_iff.mpr hfree, hrows⟩

theorem channels_of_deleteChannelRow {referenced : Bool}
    (h : deleteChannelRow referenced id db = .ok db') :
    db'.channels = db.channels.keep (·.id ≠ id) := by
  unfold deleteChannelRow at h
  split_ifs at h
  cases h
  rfl

theorem shape_of_rename {u t : AppState} {r : Except ApiError Unit} {name : String}
    (h : (executeOr channelRenameError (renameChannel id name)).run u = (r, t)) :
    t.db.parentOf = u.db.parentOf ∧ t.db.category = u.db.category := by
  cases hrename : renameChannel id name u.db with
  | error e =>
      rw [run_executeOr_of_error hrename] at h
      cases h
      exact ⟨rfl, rfl⟩
  | ok db =>
      rw [run_executeOr_of_ok hrename] at h
      cases h
      unfold renameChannel at hrename
      split_ifs at hrename
      cases hrename
      exact shape_update (fun row => { row with name := name }) (fun _ => rfl) rfl
        (fun _ => rfl) fun _ => rfl

theorem parentOf_ne_of_childless
    (h : (db.channels.rows.filter (·.parentId = some id)).length = 0) (child : String) :
    db.parentOf child ≠ some id := by
  intro hparent
  obtain ⟨row, hrow, hlink⟩ := Option.bind_eq_some_iff.mp hparent
  have hmem : row ∈ db.channels.rows.filter (·.parentId = some id) := by
    rw [List.mem_filter]
    exact ⟨(Table.find?_eq_some_iff.mp hrow).1, by simpa using hlink⟩
  rw [List.eq_nil_of_length_eq_zero h] at hmem
  cases hmem

theorem shape_reorder (order : List (String × ℕ)) (db : Db) :
    (order.foldl (fun db entry => setDisplayOrder entry.1 entry.2 db) db).parentOf = db.parentOf ∧
      (order.foldl (fun db entry => setDisplayOrder entry.1 entry.2 db) db).category =
        db.category := by
  induction order generalizing db with
  | nil => exact ⟨rfl, rfl⟩
  | cons entry rest ih =>
      have hfirst : (setDisplayOrder entry.1 entry.2 db).parentOf = db.parentOf ∧
          (setDisplayOrder entry.1 entry.2 db).category = db.category :=
        shape_update (fun row => { row with displayOrder := entry.2 }) (fun _ => rfl) rfl
          (fun _ => rfl) fun _ => rfl
      have hrest := ih (setDisplayOrder entry.1 entry.2 db)
      exact ⟨hrest.1.trans hfirst.1, hrest.2.trans hfirst.2⟩

end Rows

/-! ## Checks -/

section Checks

variable {s : AppState} {channelId p : String}

theorem requireCategory_reads (p : String) : (requireCategory p).Reads := by
  apply (reads_fetch _).bind
  intro isCategory
  rcases isCategory with _ | _ | _ <;> exact fun _ => rfl

theorem category_of_requireCategory (h : (requireCategory p).run s = (.ok (), s)) :
    s.db.category p = some true := by
  rw [requireCategory, Prog.run_bind_of_ok (run_fetch _ s)] at h
  rcases hcategory : s.db.category p with _ | _ | _
  · rw [hcategory] at h
    cases h
  · rw [hcategory] at h
    cases h
  · rfl

theorem checkCreateDepth_reads (maxDepth : ℕ) (req : CreateChannelRequest) :
    (checkCreateDepth maxDepth req).Reads :=
  (nodeDepth_reads _).bind fun _ => Prog.reads_ensure.bind fun _ => Prog.reads_ensure

theorem checkMoveDepth_reads (maxDepth : ℕ) (channelId parentId : String) :
    (checkMoveDepth maxDepth channelId parentId).Reads := by
  refine (nodeDepth_reads _).bind fun _ => Prog.reads_ensure.bind fun _ => ?_
  apply (reads_fetch _).bind
  intro isCat
  cases isCat with
  | none => exact fun _ => rfl
  | some isCat => exact Prog.reads_ensure

theorem checkMove_reads (channelId p : String) : (checkMove channelId p).Reads := by
  apply Prog.reads_ensure.bind
  intro _
  apply (requireCategory_reads p).bind
  intro _
  apply (isAncestor_reads channelId p).bind
  intro cyclic
  apply Prog.reads_ensure.bind
  intro _
  apply (reads_fetch _).bind
  intro maxDepth
  exact Prog.reads_when (checkMoveDepth_reads maxDepth channelId p)

theorem withinDepth_of_checkCreateDepth {req : CreateChannelRequest}
    (h : (Prog.when (0 < s.db.maxChannelDepth)
      (checkCreateDepth s.db.maxChannelDepth req)).run s = (.ok (), s)) :
    s.db.WithinDepth req.parentId req.isCategory 0 := by
  intro hlimited
  rw [Prog.when, if_pos hlimited] at h
  obtain ⟨n, hdepth, h⟩ := (nodeDepth_reads req.parentId).run_bind_ok h
  obtain ⟨_, hfits, h⟩ := Prog.reads_ensure.run_bind_ok h
  obtain ⟨hunder, hn⟩ := nodeDepth_eq_ok (congrArg Prod.fst hdepth)
  have hle := of_run_ensure hfits
  have hcategory := of_run_ensure h
  refine ⟨n, hn, hunder, hle, fun hreq => ?_⟩
  by_contra hlt
  exact hcategory ⟨hreq, Nat.le_of_not_lt hlt⟩

theorem withinDepth_of_checkMoveDepth {isCategory : Bool}
    (hknown : s.db.category channelId = some isCategory)
    (h : (Prog.when (0 < s.db.maxChannelDepth)
      (checkMoveDepth s.db.maxChannelDepth channelId p)).run s = (.ok (), s)) :
    s.db.WithinDepth (some p) isCategory 1 := by
  intro hlimited
  rw [Prog.when, if_pos hlimited] at h
  obtain ⟨n, hdepth, h⟩ := (nodeDepth_reads (some p)).run_bind_ok h
  obtain ⟨_, hfits, h⟩ := Prog.reads_ensure.run_bind_ok h
  rw [Prog.run_bind_of_ok (run_fetch _ s), hknown] at h
  obtain ⟨hunder, hn⟩ := nodeDepth_eq_ok (congrArg Prod.fst hdepth)
  have hle := of_run_ensure hfits
  have hcategory := of_run_ensure h
  refine ⟨n, hn, hunder, hle, fun hreq => ?_⟩
  by_contra hlt
  exact hcategory ⟨hreq, Nat.le_of_not_lt hlt⟩

end Checks

/-! ## Effects of the handlers -/

section Effects

variable {s : AppState}

theorem createChannel_effect (id : String) (now : Int) (user : String)
    (req : CreateChannelRequest) :
    ChannelEffect (.create id now user req) s
      ((createChannel id now user req).run s).2.db := by
  rcases hrun : (createChannel id now user req).run s with ⟨r, t⟩
  rcases (reads_userPermissions user).run_bind_cases hrun with rfl | ⟨perms, -, hrun⟩
  · exact .rfl'
  rcases (Prog.reads_ofExcept _).run_bind_cases hrun with rfl | ⟨_, -, hrun⟩
  · exact .rfl'
  rcases (Prog.reads_whenSome requireCategory_reads).run_bind_cases hrun with rfl | ⟨_, hlink, hrun⟩
  · exact .rfl'
  rw [Prog.run_bind_of_ok (run_fetch _ s)] at hrun
  rcases (Prog.reads_when (checkCreateDepth_reads _ req)).run_bind_cases hrun
    with rfl | ⟨_, hdepth, hrun⟩
  · exact .rfl'
  rcases (Prog.reads_ofExcept _).run_bind_cases hrun with rfl | ⟨channelType, -, hrun⟩
  · exact .rfl'
  rw [Prog.run_bind_of_ok (run_fetch _ s)] at hrun
  rcases run_executeOr_bind_cases hrun with rfl | ⟨db, hinsert, hrun⟩
  · exact .rfl'
  cases hrun
  obtain ⟨hfree, hrows⟩ := insertChannel_eq_ok hinsert
  obtain ⟨hparent, hcategory⟩ := shape_insert hrows
  apply ChannelEffect.created id req.parentId req.isCategory
  · exact category_eq_none_iff.mpr hfree
  · intro p hp
    rw [hp] at hlink
    exact category_of_requireCategory hlink
  · exact withinDepth_of_checkCreateDepth hdepth
  · exact hparent
  · exact hcategory

/-- The renaming at the end of `update_channel`. -/
theorem shape_rename {u t : AppState} {r : Except ApiError StatusCode} {channelId : String}
    {name : Option String}
    (h : (Prog.whenSome name (fun name => do
        Prog.ensure (trim name ≠ "") ⟨.badRequest, "Channel name cannot be empty"⟩
        executeOr channelRenameError (renameChannel channelId (trim name))) >>=
      fun _ => pure StatusCode.ok).run u = (r, t)) :
    t.db.parentOf = u.db.parentOf ∧ t.db.category = u.db.category := by
  rcases name with _ | name
  · cases h
    exact ⟨rfl, rfl⟩
  rcases Prog.run_bind_cases h with ⟨e, hrun, -⟩ | ⟨_, v, hrun, hrest⟩
  · rcases Prog.reads_ensure.run_bind_cases hrun with rfl | ⟨_, -, hrun⟩
    · exact ⟨rfl, rfl⟩
    · exact shape_of_rename hrun
  · cases hrest
    rcases Prog.reads_ensure.run_bind_cases hrun with rfl | ⟨_, -, hrun⟩
    · exact ⟨rfl, rfl⟩
    · exact shape_of_rename hrun

/-- What the checks of `update_channel` have established about a move. -/
theorem updateChannelRow_effect (user : String) {channelId : String}
    {req : UpdateChannelRequest} {db : Db} (hpresent : s.db.channels.has channelId = true)
    (hauthorized : req.authorize (s.db.userPermissions user) = .ok ())
    (hchecked : (Prog.whenSome req.parentId.join (checkMove channelId)).run s = (.ok (), s))
    (h : updateChannelRow channelId req s.db = .ok db) :
    ChannelEffect (.update user channelId req) s db := by
  have hchannels : db.channels = s.db.channels.update (·.id = channelId) req.apply fun _ =>
      rfl := by
    simp only [updateChannelRow] at h
    split_ifs at h
    cases h
    rfl
  have happly (row : ChannelRow) : (req.apply row).parentId = req.parentId.getD row.parentId := rfl
  rcases hlink : req.parentId with _ | _ | p
  · obtain ⟨hparent, hcategory⟩ := shape_update req.apply (fun _ => rfl) hchannels
      (fun row => by rw [happly, hlink, Option.getD_none]) fun _ => rfl
    exact .kept hparent hcategory
  · obtain ⟨hparent, hcategory⟩ := shape_relink req.apply (fun _ => rfl) hchannels hpresent
      (fun row => by rw [happly, hlink, Option.getD_some]) fun _ => rfl
    exact .lifted channelId hparent hcategory
  · obtain ⟨hparent, hcategory⟩ := shape_relink req.apply (fun _ => rfl) hchannels hpresent
      (fun row => by rw [happly, hlink, Option.getD_some]) fun _ => rfl
    rw [hlink] at hchecked
    have hmove : (checkMove channelId p).run s = (.ok (), s) := hchecked
    obtain ⟨isCategory, hknown⟩ : ∃ isCategory, s.db.category channelId = some isCategory := by
      rw [← Option.ne_none_iff_exists', Ne, category_eq_none_iff, hpresent]
      exact Bool.noConfusion
    obtain ⟨_, hself, hchecked⟩ := Prog.reads_ensure.run_bind_ok hchecked
    obtain ⟨_, hparentOk, hchecked⟩ := (requireCategory_reads p).run_bind_ok hchecked
    obtain ⟨cyclic, hsearch, hchecked⟩ := (isAncestor_reads channelId p).run_bind_ok hchecked
    obtain ⟨_, hfalse, hchecked⟩ := Prog.reads_ensure.run_bind_ok hchecked
    rw [Prog.run_bind_of_ok (run_fetch _ s)] at hchecked
    rw [of_run_ensure hfalse] at hsearch
    apply ChannelEffect.moved channelId p isCategory
    · exact ⟨user, req, rfl, by rw [hlink]; rfl, hpresent, hauthorized, hmove⟩
    · exact hknown
    · exact of_run_ensure hself
    · exact category_of_requireCategory hparentOk
    · exact climb_ne_of_isAncestor hsearch
    · exact withinDepth_of_checkMoveDepth hknown hchecked
    · exact hparent
    · exact hcategory

theorem updateChannel_effect (user channelId : String) (req : UpdateChannelRequest) :
    ChannelEffect (.update user channelId req) s
      ((updateChannel user channelId req).run s).2.db := by
  rcases hrun : (updateChannel user channelId req).run s with ⟨r, t⟩
  rw [updateChannel, Prog.run_bind_of_ok (run_userPermissions user s),
    Prog.run_bind_of_ok (run_fetch _ s)] at hrun
  rcases Prog.reads_ensure.run_bind_cases hrun with rfl | ⟨_, hpresent, hrun⟩
  · exact .rfl'
  rcases (Prog.reads_ofExcept _).run_bind_cases hrun with rfl | ⟨_, hchecked, hrun⟩
  · exact .rfl'
  have hauthorized := congrArg Prod.fst ((Prog.run_ofExcept _ s).symm.trans hchecked)
  rcases (Prog.reads_whenSome (checkMove_reads channelId)).run_bind_cases hrun
    with rfl | ⟨_, hchecked, hrun⟩
  · exact .rfl'
  by_cases hneeds : req.needsUpdate
  · rw [Prog.when, if_pos hneeds] at hrun
    rcases run_executeOr_bind_cases hrun with rfl | ⟨db, hupdate, hrun⟩
    · exact .rfl'
    have heffect :=
      updateChannelRow_effect user (of_run_ensure hpresent) hauthorized hchecked hupdate
    obtain ⟨hparent, hcategory⟩ := shape_rename hrun
    exact heffect.kept_after hparent hcategory
  · rw [Prog.when, if_neg hneeds] at hrun
    obtain ⟨hparent, hcategory⟩ := shape_rename hrun
    exact .kept hparent hcategory

theorem reorderChannels_effect (user : String) (channelIds : List String) :
    ChannelEffect (.reorder user channelIds) s
      ((reorderChannels user channelIds).run s).2.db := by
  rcases hrun : (reorderChannels user channelIds).run s with ⟨r, t⟩
  rcases (reads_userPermissions user).run_bind_cases hrun with rfl | ⟨perms, -, hrun⟩
  · exact .rfl'
  rcases (Prog.reads_ofExcept _).run_bind_cases hrun with rfl | ⟨_, -, hrun⟩
  · exact .rfl'
  rw [Prog.run_bind_of_ok (run_each_write _ _ s)] at hrun
  cases hrun
  obtain ⟨hparent, hcategory⟩ := shape_reorder channelIds.zipIdx s.db
  exact .kept hparent hcategory

theorem deleteChannel_effect (referenced : Bool) (user channelId : String) :
    ChannelEffect (.delete referenced user channelId) s
      ((deleteChannel referenced user channelId).run s).2.db := by
  rcases hrun : (deleteChannel referenced user channelId).run s with ⟨r, t⟩
  rcases (reads_userPermissions user).run_bind_cases hrun with rfl | ⟨perms, -, hrun⟩
  · exact .rfl'
  rcases (Prog.reads_ofExcept _).run_bind_cases hrun with rfl | ⟨_, -, hrun⟩
  · exact .rfl'
  rw [Prog.run_bind_of_ok (run_fetch _ s)] at hrun
  rcases Prog.reads_ensure.run_bind_cases hrun with rfl | ⟨_, -, hrun⟩
  · exact .rfl'
  rw [Prog.run_bind_of_ok (run_fetch _ s)] at hrun
  rcases Prog.reads_ensure.run_bind_cases hrun with rfl | ⟨_, hchildless, hrun⟩
  · exact .rfl'
  rcases run_executeOr_bind_cases hrun with rfl | ⟨db, hdelete, hrun⟩
  · exact .rfl'
  cases hrun
  obtain ⟨hparent, hcategory⟩ := shape_delete (channels_of_deleteChannelRow hdelete)
  exact .deleted channelId (parentOf_ne_of_childless (of_run_ensure hchildless)) hparent hcategory

theorem patchChannelDepth_effect (user : String) (maxChannelDepth : UInt32) :
    ChannelEffect (.patchDepth user maxChannelDepth) s
      ((patchChannelDepth user maxChannelDepth).run s).2.db := by
  rcases hrun : (patchChannelDepth user maxChannelDepth).run s with ⟨r, t⟩
  rcases (reads_userPermissions user).run_bind_cases hrun with rfl | ⟨perms, -, hrun⟩
  · exact .rfl'
  rcases (Prog.reads_ofExcept _).run_bind_cases hrun with rfl | ⟨_, -, hrun⟩
  · exact .rfl'
  rw [Prog.run_bind_of_ok (run_write _ s)] at hrun
  cases hrun
  exact .kept rfl rfl

end Effects

/-- Every request does one of these things. -/
theorem ChannelRequest.effect (request : ChannelRequest) (s : AppState) :
    ChannelEffect request s (request.exec s).db := by
  cases request with
  | create id now user req => exact createChannel_effect id now user req
  | update user channelId req => exact updateChannel_effect user channelId req
  | reorder user channelIds => exact reorderChannels_effect user channelIds
  | delete referenced user channelId => exact deleteChannel_effect referenced user channelId
  | patchDepth user maxChannelDepth => exact patchChannelDepth_effect user maxChannelDepth

/-! ## The tree is a forest -/

/-- Every chain of links ends at a root, and every link leads to a category. -/
structure Db.Forest (db : Db) : Prop where
  rooted : ∀ id, Rooted db.parentOf id
  category : ∀ id p, db.parentOf id = some p → db.category p = some true

theorem forest_of_empty {db : Db} (h : db.channels = ∅) : db.Forest := by
  have hparent (id : String) : db.parentOf id = none := by
    rw [Db.parentOf, h]
    rfl
  constructor
  · exact fun id => ⟨0, hasDepth_zero_iff.mpr (hparent id)⟩
  · intro id p hp
    rw [hparent id] at hp
    cases hp

/-- Nothing lies below a channel that does not exist. -/
theorem Db.Forest.climb_ne {db : Db} (h : db.Forest) {id a : String}
    (hfree : db.category id = none) (ha : a ≠ id) (k : ℕ) : climb db.parentOf k a ≠ some id := by
  apply climb_ne_of_childless _ ha
  intro child hchild
  rw [h.category child id hchild] at hfree
  cases hfree

/-- A category is not a channel that does not exist. -/
theorem ne_of_free {db : Db} {id p : String} (hfree : db.category id = none)
    (hp : db.category p = some true) : p ≠ id := by
  rintro rfl
  rw [hfree] at hp
  cases hp

/-- What holds of all parents, and of the end of a new link. -/
theorem of_update_link {parent : String → Option String} {good : String → Prop} {id : String}
    {link : Option String} (h : ∀ a p, parent a = some p → good p) (hlink : ∀ p ∈ link, good p)
    (a p : String) (hp : Function.update parent id link a = some p) : good p := by
  by_cases ha : a = id
  · rw [ha, Function.update_self] at hp
    exact hlink p hp
  · rw [Function.update_of_ne ha] at hp
    exact h a p hp

/-- While there is no depth limit, no channel is moved under a parent that it is
an ancestor of beyond the reach of the search. -/
def ChannelRequest.NoDeepCycle (request : ChannelRequest) (s : AppState) : Prop :=
  ∀ id p, request.Moves s id p → s.db.maxChannelDepth = 0 →
    ∀ k ≥ 50, climb s.db.parentOf (k + 1) p ≠ some id

/-- A move that passes its checks does not go below the moved channel. -/
theorem climb_ne_of_moved {request : ChannelRequest} {s : AppState} {id p : String}
    {isCategory : Bool} (hok : request.NoDeepCycle s) (hmoves : request.Moves s id p)
    (hne : p ≠ id) (hsearched : ∀ k < 50, climb s.db.parentOf (k + 1) p ≠ some id)
    (hdepth : s.db.WithinDepth (some p) isCategory 1) (k : ℕ) :
    climb s.db.parentOf k p ≠ some id := by
  cases k with
  | zero => exact fun h => hne (Option.some.inj h)
  | succ k =>
      by_cases hk : k < 50
      · exact hsearched k hk
      · rcases Nat.eq_zero_or_pos s.db.maxChannelDepth with hunlimited | hlimited
        · exact hok id p hmoves hunlimited k (Nat.le_of_not_lt hk)
        · -- The measured depth of the parent leaves no room for such an ancestor.
          obtain ⟨n, hn, ⟨m, rfl, hm⟩, -⟩ := hdepth hlimited
          intro hclimb
          have := hm.le_of_climb hclimb
          omega

/-- One request. -/
theorem ChannelRequest.exec_forest {request : ChannelRequest} {s : AppState}
    (hok : request.NoDeepCycle s) (h : s.db.Forest) : (request.exec s).db.Forest := by
  cases request.effect s with
  | kept hparent hcategory =>
      constructor
      · rw [hparent]
        exact h.rooted
      · rw [hparent, hcategory]
        exact h.category
  | created id link isCategory hfree hlink hdepth hparent hcategory =>
      have hkeep {p : String} (hp : s.db.category p = some true) :
          (request.exec s).db.category p = some true := by
        rw [hcategory, Function.update_of_ne (ne_of_free hfree hp), hp]
      constructor
      · intro a
        rw [hparent]
        cases link with
        | none => exact (h.rooted a).update_root
        | some p =>
            have hp := ne_of_free hfree (hlink p rfl)
            exact (h.rooted a).update_move (h.rooted p) (h.climb_ne hfree hp)
      · rw [hparent]
        exact of_update_link (fun a p hp => hkeep (h.category a p hp)) fun p hp =>
          hkeep (hlink p hp)
  | lifted id hparent hcategory =>
      constructor
      · intro a
        rw [hparent]
        exact (h.rooted a).update_root
      · rw [hparent, hcategory]
        exact of_update_link h.category fun p hp => by cases hp
  | moved id p isCategory hmoves hknown hne hlink hsearched hdepth hparent hcategory =>
      have havoid := climb_ne_of_moved hok hmoves hne hsearched hdepth
      constructor
      · intro a
        rw [hparent]
        exact (h.rooted a).update_move (h.rooted p) havoid
      · rw [hparent, hcategory]
        apply of_update_link h.category
        intro q hq
        cases hq
        exact hlink
  | deleted id hchildless hparent hcategory =>
      constructor
      · intro a
        rw [hparent]
        exact (h.rooted a).update_root
      · rw [hparent, hcategory]
        apply of_update_link
        · intro a p hp
          have hpid : p ≠ id := fun heq => hchildless a (heq ▸ hp)
          rw [Function.update_of_ne hpid]
          exact h.category a p hp
        · exact fun p hp => by cases hp

theorem exists_row_of_category {db : Db} {id : String} {isCategory : Bool}
    (h : db.category id = some isCategory) :
    ∃ row ∈ db.channels.rows, row.id = id ∧ row.isCategory = isCategory := by
  obtain ⟨row, hrow, hcategory⟩ := Option.map_eq_some_iff.mp h
  exact ⟨row, (Table.find?_eq_some_iff.mp hrow).1, (Table.find?_eq_some_iff.mp hrow).2, hcategory⟩

theorem parentOf_of_mem {db : Db} {row : ChannelRow} (h : row ∈ db.channels.rows) :
    db.parentOf row.id = row.parentId := by
  rw [Db.parentOf, Table.find?_eq_some_iff.mpr ⟨h, rfl⟩, Option.bind_some]

/-- **The channel tree stays a forest.** From an empty channel table, as long as
no request moves a channel, without a depth limit, under a parent more than
fifty levels below it, every channel leads to a root and every parent is an
existing category. -/
theorem channels_forest {s : AppState} (hempty : s.db.channels = ∅) {calls : List ChannelRequest}
    (hok : Along ChannelRequest.exec ChannelRequest.NoDeepCycle calls s) :
    ∀ row ∈ (runAll ChannelRequest.exec calls s).db.channels.rows,
      Rooted (runAll ChannelRequest.exec calls s).db.parentOf row.id ∧
        ∀ p, row.parentId = some p →
          ∃ parentRow ∈ (runAll ChannelRequest.exec calls s).db.channels.rows,
            parentRow.id = p ∧ parentRow.isCategory = true := by
  have hforest : (runAll ChannelRequest.exec calls s).db.Forest := by
    apply hok.invariant (fun s => s.db.Forest)
    · exact fun _ _ hok h => ChannelRequest.exec_forest hok h
    · exact forest_of_empty hempty
  intro row hrow
  refine ⟨hforest.rooted row.id, fun p hp => ?_⟩
  apply exists_row_of_category
  apply hforest.category row.id
  rw [parentOf_of_mem hrow, hp]

/-- A hub with one member, who may do everything. -/
def adminHub : AppState where
  db := { Db.migrated with
    users := ⟨[{ publicKey := "admin", firstSeenAt := 1, lastSeenAt := 1 }], by decide⟩
    userRoles := ⟨[⟨"admin", "builtin-owner", 1⟩], by decide⟩ }

/-- A chain of categories, each in the one before. -/
def nestCategories (n : ℕ) : List ChannelRequest :=
  (List.range n).map fun i => .create (toString i) 1 "admin"
    { name := toString i, parentId := if i = 0 then none else some (toString (i - 1)),
      isCategory := true }

/-- The second of three nested categories is lifted out and put back. -/
def regroup : List ChannelRequest :=
  nestCategories 3 ++ [.update "admin" "1" { parentId := some none },
    .update "admin" "1" { parentId := some (some "0") }]

theorem channels_forest_regroup :
    adminHub.db.channels = ∅ ∧
    Along ChannelRequest.exec ChannelRequest.NoDeepCycle regroup adminHub ∧
      ∀ row ∈ (runAll ChannelRequest.exec regroup adminHub).db.channels.rows,
        Rooted (runAll ChannelRequest.exec regroup adminHub).db.parentOf row.id ∧
          ∀ p, row.parentId = some p →
            ∃ parentRow ∈ (runAll ChannelRequest.exec regroup adminHub).db.channels.rows,
              parentRow.id = p ∧ parentRow.isCategory = true := by
  have hstays {request : ChannelRequest} {s : AppState} (h : request.move? = none) :
      request.NoDeepCycle s := by
    intro id p hmoves
    cases h.symm.trans hmoves.move?_eq
  have htop {request : ChannelRequest} {s : AppState} {id p : String}
      (h : request.move? = some (id, p)) (hp : s.db.parentOf p = none) :
      request.NoDeepCycle s := by
    intro id' p' hmoves _ k _
    cases h.symm.trans hmoves.move?_eq
    rw [climb, hp]
    intro heq
    cases heq
  have hok : Along ChannelRequest.exec ChannelRequest.NoDeepCycle regroup adminHub :=
    ⟨hstays rfl, hstays rfl, hstays rfl, hstays rfl, htop rfl (by decide +kernel), trivial⟩
  exact ⟨rfl, hok, channels_forest rfl hok⟩

/-- Fifty-two nested categories, the outermost of which is then moved into the
innermost. -/
def deepCycle : List ChannelRequest :=
  nestCategories 52 ++ [.update "admin" "0" { parentId := some (some "51") }]

/-- The search gives up one level below the channel it is looking for. -/
theorem not_channels_forest_deepCycle :
    ¬ ∀ (s : AppState) (calls : List ChannelRequest), s.db.channels = ∅ →
      ∀ row ∈ (runAll ChannelRequest.exec calls s).db.channels.rows,
        Rooted (runAll ChannelRequest.exec calls s).db.parentOf row.id ∧
          ∀ p, row.parentId = some p →
            ∃ parentRow ∈ (runAll ChannelRequest.exec calls s).db.channels.rows,
              parentRow.id = p ∧ parentRow.isCategory = true := by
  intro h
  obtain ⟨hlinks, hfirst⟩ : ((List.range 52).map toString).map
      (runAll ChannelRequest.exec deepCycle adminHub).db.parentOf =
        ("51" :: (List.range 51).map toString).map some ∧
      "0" ∈ (runAll ChannelRequest.exec deepCycle adminHub).db.channels.rows.map (·.id) := by
    decide +kernel
  have hclosed : ∀ a ∈ (List.range 52).map toString, ∃ b ∈ (List.range 52).map toString,
      (runAll ChannelRequest.exec deepCycle adminHub).db.parentOf a = some b := by
    intro a ha
    have hmem := List.mem_map_of_mem
      (f := (runAll ChannelRequest.exec deepCycle adminHub).db.parentOf) ha
    rw [hlinks] at hmem
    obtain ⟨b, hb, hparent⟩ := List.mem_map.mp hmem
    have hnodes : ∀ b ∈ "51" :: (List.range 51).map toString, b ∈ (List.range 52).map toString := by
      decide +kernel
    exact ⟨b, hnodes b hb, hparent.symm⟩
  obtain ⟨row, hrow, hid⟩ := List.mem_map.mp hfirst
  have hrooted := (h adminHub deepCycle rfl row hrow).1
  rw [hid] at hrooted
  exact not_rooted_of_closed hclosed (by decide) hrooted

/-! ## The depth limit -/

/-- Every channel lies within the limit, and every category strictly. -/
def Db.Shallow (db : Db) (d : ℕ) : Prop :=
  ∀ id isCategory, db.category id = some isCategory →
    ∃ n, HasDepth db.parentOf id n ∧ n ≤ d - 1 ∧ (isCategory = true → n < d - 1)

/-- Wherever a request moves a channel to, what lies below it still fits there. -/
def ChannelRequest.SubtreeFits (d : ℕ) (request : ChannelRequest) (s : AppState) : Prop :=
  ∀ id p, request.Moves s id p → ∀ m, HasDepth s.db.parentOf p m →
    ∀ a isCategory, s.db.category a = some isCategory →
      ∀ k, climb s.db.parentOf (k + 1) a = some id →
        (m + 1) + (k + 1) ≤ d - 1 ∧ (isCategory = true → (m + 1) + (k + 1) < d - 1)

/-- A new channel lies where its depth was measured. -/
theorem Db.DepthUnder.update {db : Db} {link : Option String} {n : ℕ} (h : db.DepthUnder link n)
    (hforest : db.Forest) {id : String} (hfree : db.category id = none)
    (hlink : ∀ p ∈ link, db.category p = some true) :
    HasDepth (Function.update db.parentOf id link) id n := by
  cases link with
  | none =>
      obtain rfl : n = 0 := h
      exact hasDepth_zero_iff.mpr (Function.update_self ..)
  | some p =>
      obtain ⟨m, rfl, hm⟩ := h
      apply (hasDepth_succ_iff (Function.update_self ..)).mpr
      exact hm.update (hforest.climb_ne hfree (ne_of_free hfree (hlink p rfl)))

/-- One request, while the limit is in force. -/
theorem ChannelRequest.exec_shallow {d : ℕ} {request : ChannelRequest} {s : AppState} (hd : 0 < d)
    (hlimit : s.db.maxChannelDepth = d) (hfits : request.SubtreeFits d s) (hforest : s.db.Forest)
    (h : s.db.Shallow d) : (request.exec s).db.Shallow d := by
  have hlimited : 0 < s.db.maxChannelDepth := hlimit ▸ hd
  have hnoCycle : request.NoDeepCycle s := by
    intro id p _ hunlimited
    exact absurd hunlimited (Nat.ne_of_gt hlimited)
  intro a isCategory ha
  cases request.effect s with
  | kept hparent hcategory =>
      rw [hcategory] at ha
      rw [hparent]
      exact h a isCategory ha
  | created id link isCategory' hfree hlink hdepth hparent hcategory =>
      rw [hcategory] at ha
      rw [hparent]
      by_cases hid : a = id
      · subst hid
        rw [Function.update_self, Option.some.injEq] at ha
        subst ha
        obtain ⟨n, -, hunder, hle, hlt⟩ := hdepth hlimited
        rw [hlimit] at hle hlt
        exact ⟨n, hunder.update hforest hfree hlink, hle, hlt⟩
      · rw [Function.update_of_ne hid] at ha
        obtain ⟨n, hn, hbound⟩ := h a isCategory ha
        exact ⟨n, hn.update (hforest.climb_ne hfree hid), hbound⟩
  | lifted id hparent hcategory =>
      rw [hcategory] at ha
      rw [hparent]
      obtain ⟨n, hn, hle, hlt⟩ := h a isCategory ha
      by_cases hbelow : ∃ k, climb s.db.parentOf k a = some id
      · obtain ⟨k, hk⟩ := hbelow
        have hkn := hn.le_of_climb hk
        exact ⟨k, hn.update_root hk, hkn.trans hle, fun hc => hkn.trans_lt (hlt hc)⟩
      · exact ⟨n, hn.update (not_exists.mp hbelow), hle, hlt⟩
  | moved id p isCategory' hmoves hknown hne hlink hsearched hdepth hparent hcategory =>
      rw [hcategory] at ha
      rw [hparent]
      have havoid := climb_ne_of_moved hnoCycle hmoves hne hsearched hdepth
      obtain ⟨n, -, ⟨m, rfl, hm⟩, hmoved, hmovedLt⟩ := hdepth hlimited
      rw [hlimit] at hmoved hmovedLt
      obtain ⟨n, hn, hle, hlt⟩ := h a isCategory ha
      by_cases hbelow : ∃ k, climb s.db.parentOf k a = some id
      · obtain ⟨k, hk⟩ := hbelow
        have hdepth' := hn.update_move hk hm havoid
        cases k with
        | zero =>
            -- The moved channel itself passed the check.
            obtain rfl : a = id := Option.some.inj hk
            rw [hknown, Option.some.injEq] at ha
            subst ha
            refine ⟨_, hdepth', by omega, fun hc => ?_⟩
            have := hmovedLt hc
            omega
        | succ k =>
            obtain ⟨hfit, hfitLt⟩ := hfits id p hmoves m hm a isCategory ha k hk
            refine ⟨_, hdepth', by omega, fun hc => ?_⟩
            have := hfitLt hc
            omega
      · exact ⟨n, hn.update (not_exists.mp hbelow), hle, hlt⟩
  | deleted id hchildless hparent hcategory =>
      rw [hcategory] at ha
      rw [hparent]
      have hid : a ≠ id := by
        rintro rfl
        rw [Function.update_self] at ha
        cases ha
      rw [Function.update_of_ne hid] at ha
      obtain ⟨n, hn, hbound⟩ := h a isCategory ha
      exact ⟨n, hn.update (climb_ne_of_childless hchildless hid), hbound⟩

/-- The condition on a request under a constant depth limit. -/
def ChannelRequest.KeepsLimit (d : ℕ) (request : ChannelRequest) (s : AppState) : Prop :=
  s.db.maxChannelDepth = d ∧ request.SubtreeFits d s

/-- **The depth limit is kept.** From an empty channel table, while the limit is
a constant `d > 0` and what lies below a moved channel fits where it is moved
to, every channel has at most `d - 1` proper ancestors and every category has
fewer. -/
theorem channels_depth {d : ℕ} (hd : 0 < d) {s : AppState} (hempty : s.db.channels = ∅)
    {calls : List ChannelRequest}
    (hok : Along ChannelRequest.exec (ChannelRequest.KeepsLimit d) calls s) :
    ∀ row ∈ (runAll ChannelRequest.exec calls s).db.channels.rows,
      ∃ n, HasDepth (runAll ChannelRequest.exec calls s).db.parentOf row.id n ∧ n ≤ d - 1 ∧
        (row.isCategory = true → n ≠ d - 1) := by
  have hboth : (runAll ChannelRequest.exec calls s).db.Forest ∧
      (runAll ChannelRequest.exec calls s).db.Shallow d := by
    apply hok.invariant (fun s => s.db.Forest ∧ s.db.Shallow d)
    · intro request s hok h
      have hnoCycle : request.NoDeepCycle s := by
        intro id p _ hunlimited
        exact absurd (hok.1.symm.trans hunlimited) (Nat.ne_of_gt hd)
      exact ⟨ChannelRequest.exec_forest hnoCycle h.1,
        ChannelRequest.exec_shallow hd hok.1 hok.2 h.1 h.2⟩
    · refine ⟨forest_of_empty hempty, fun id isCategory hcategory => ?_⟩
      rw [Db.category, hempty] at hcategory
      cases hcategory
  intro row hrow
  have hcategory : (runAll ChannelRequest.exec calls s).db.category row.id =
      some row.isCategory := by
    rw [Db.category, Table.find?_eq_some_iff.mpr ⟨hrow, rfl⟩, Option.map_some]
  obtain ⟨n, hn, hle, hlt⟩ := hboth.2 row.id row.isCategory hcategory
  exact ⟨n, hn, hle, fun hc => Nat.ne_of_lt (hlt hc)⟩

/-- A hub that allows four levels of channels. -/
def limitedHub : AppState :=
  adminHub.withDb (upsertSetting "max_channel_depth" "4" adminHub.db)

/-- A channel inside two nested categories, and a category next to them. -/
def twoGroups : List ChannelRequest :=
  nestCategories 2 ++ [
    .create "talk" 1 "admin" { name := "talk", parentId := some "1" },
    .create "side" 1 "admin" { name := "side", isCategory := true }]

/-- Moving the inner category keeps within the limit. -/
def fittingMove : List ChannelRequest :=
  twoGroups ++ [.update "admin" "1" { parentId := some (some "side") }]

/-- The channels below a category, level by level, for states that are given in
full. -/
theorem subtreeFits_of_rows {d m : ℕ} {request : ChannelRequest} {s : AppState} {id p : String}
    (hrequest : request.move? = some (id, p)) (hp : HasDepth s.db.parentOf p m)
    (hrows : ∀ row ∈ s.db.channels.rows, ∀ k < 3,
      climb s.db.parentOf (k + 1) row.id = some id →
        (m + 1) + (k + 1) ≤ d - 1 ∧ (row.isCategory = true → (m + 1) + (k + 1) < d - 1))
    (hflat : ∀ row ∈ s.db.channels.rows, climb s.db.parentOf 3 row.id = none) :
    request.SubtreeFits d s := by
  intro id' p' hmoves m' hm' a isCategory ha k hk
  cases hrequest.symm.trans hmoves.move?_eq
  obtain rfl := hm'.unique hp
  obtain ⟨row, hrow, rfl, rfl⟩ := exists_row_of_category ha
  by_cases hlow : k < 3
  · exact hrows row hrow k hlow hk
  · obtain ⟨extra, rfl⟩ := Nat.exists_eq_add_of_le (Nat.le_of_not_lt hlow)
    rw [Nat.add_assoc, climb_add, hflat row hrow] at hk
    cases hk

theorem channels_depth_fittingMove :
    0 < 4 ∧ limitedHub.db.channels = ∅ ∧
      Along ChannelRequest.exec (ChannelRequest.KeepsLimit 4) fittingMove limitedHub ∧
      ∀ row ∈ (runAll ChannelRequest.exec fittingMove limitedHub).db.channels.rows,
        ∃ n, HasDepth (runAll ChannelRequest.exec fittingMove limitedHub).db.parentOf row.id n ∧
          n ≤ 4 - 1 ∧ (row.isCategory = true → n ≠ 4 - 1) := by
  have hstays {request : ChannelRequest} {s : AppState} (h : request.move? = none) :
      request.SubtreeFits 4 s := by
    intro id p hmoves
    cases h.symm.trans hmoves.move?_eq
  have hmove : (ChannelRequest.update "admin" "1" { parentId := some (some "side") }).SubtreeFits 4
      (runAll ChannelRequest.exec twoGroups limitedHub) := by
    apply subtreeFits_of_rows (m := 0) rfl
    · exact hasDepth_zero_iff.mpr (by decide +kernel)
    · decide +kernel
    · decide +kernel
  have hok : Along ChannelRequest.exec (ChannelRequest.KeepsLimit 4) fittingMove limitedHub :=
    ⟨⟨by decide +kernel, hstays rfl⟩, ⟨by decide +kernel, hstays rfl⟩,
      ⟨by decide +kernel, hstays rfl⟩, ⟨by decide +kernel, hstays rfl⟩,
      ⟨by decide +kernel, hmove⟩, trivial⟩
  exact ⟨by decide, rfl, hok, channels_depth (by decide) rfl hok⟩

/-- Three nested categories with a channel in the innermost fill the four levels;
the outermost is then moved into another category. -/
def sinkingSubtree : List ChannelRequest :=
  nestCategories 3 ++ [
    .create "talk" 1 "admin" { name := "talk", parentId := some "2" },
    .create "side" 1 "admin" { name := "side", isCategory := true },
    .update "admin" "0" { parentId := some (some "side") }]

/-- The moved category fits, the channel at the bottom does not. -/
theorem not_channels_depth_sinkingSubtree :
    ¬ ∀ (d : ℕ) (s : AppState) (calls : List ChannelRequest), 0 < d → s.db.channels = ∅ →
      Along ChannelRequest.exec (fun _ s => s.db.maxChannelDepth = d) calls s →
      ∀ row ∈ (runAll ChannelRequest.exec calls s).db.channels.rows,
        ∃ n, HasDepth (runAll ChannelRequest.exec calls s).db.parentOf row.id n ∧ n ≤ d - 1 ∧
          (row.isCategory = true → n ≠ d - 1) := by
  intro h
  have hlimit : Along ChannelRequest.exec (fun _ s => s.db.maxChannelDepth = 4) sinkingSubtree
      limitedHub := by
    decide +kernel
  obtain ⟨htalk, hdeep⟩ : "talk" ∈
        (runAll ChannelRequest.exec sinkingSubtree limitedHub).db.channels.rows.map (·.id) ∧
      climb (runAll ChannelRequest.exec sinkingSubtree limitedHub).db.parentOf 4 "talk" =
        some "side" := by
    decide +kernel
  obtain ⟨row, hrow, hid⟩ := List.mem_map.mp htalk
  obtain ⟨n, hn, hle, -⟩ := h 4 limitedHub sinkingSubtree (by decide) rfl hlimit row hrow
  rw [hid] at hn
  have := hn.le_of_climb hdeep
  omega

end Voxply.Hub
