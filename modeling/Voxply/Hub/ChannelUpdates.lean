/-
# Updating a channel as a whole

`update_channel` sets the columns that a request names with two statements.  The name has a
statement of its own, which comes last, and only there it is looked at: an empty name or one
that another channel has is refused when the other columns have been written already.
-/

import Voxply.Hub.ChannelForest
import Voxply.Math.Atomic

namespace Voxply.Hub

open Voxply.Math

/-! ## What an update is to do -/

/-- The row with the fields that the request names as it wants them, and the others as
they were. -/
def UpdateChannelRequest.requested (req : UpdateChannelRequest) (row : ChannelRow) : ChannelRow :=
  { row with
    name := req.name.getD row.name
    description := req.description.or row.description
    parentId := req.parentId.getD row.parentId
    icon := req.icon.getD row.icon
    color := req.color.getD row.color
    customIconSvg := req.customIconSvg.getD row.customIconSvg
    minTalkPower := req.minTalkPower.getD row.minTalkPower }

theorem UpdateChannelRequest.requested_id (req : UpdateChannelRequest) (row : ChannelRow) :
    (req.requested row).id = row.id := rfl

theorem UpdateChannelRequest.apply_id (req : UpdateChannelRequest) (row : ChannelRow) :
    (req.apply row).id = row.id := rfl

def SameChannels (s t : AppState) : Prop :=
  t.db.channels = s.db.channels

theorem SameChannels.refl (s : AppState) : SameChannels s s := rfl

/-- An error leaves the channels as they were, and otherwise exactly the fields of the
request have changed, to what it asks for. -/
def UpdatesWhole (user channelId : String) (req : UpdateChannelRequest) (s : AppState) : Prop :=
  (updateChannel user channelId req).AllOrNothing
    (SameChannels s)
    (fun _ t => t.db.channels = s.db.channels.update (·.id = channelId) req.requested
    req.requested_id) s

/-- The checks before the first write let the request pass. -/
def PassesUpdateChecks (user channelId : String) (req : UpdateChannelRequest)
    (s : AppState) : Prop :=
  s.db.channels.has channelId = true ∧ req.authorize (s.db.userPermissions user) = .ok () ∧
    ∀ parentId ∈ req.parentId.join, (checkMove channelId parentId).Succeeds s

/-- The channel can have the name. -/
def Db.ChannelNameOpen (db : Db) (channelId name : String) : Prop :=
  name ≠ "" ∧ ∀ row ∈ db.channels.rows, row.id ≠ channelId → row.name ≠ name

/-- A request that passes the checks names a new name without blanks around it that the
channel can have, or one that it cannot have and nothing that would change the channel. -/
def NameComesSafe (user channelId : String) (req : UpdateChannelRequest) (s : AppState) : Prop :=
  PassesUpdateChecks user channelId req s → ∀ name ∈ req.name,
    (s.db.ChannelNameOpen channelId (trim name) → trim name = name) ∧
      (¬ s.db.ChannelNameOpen channelId (trim name) →
        ∀ row ∈ s.db.channels.find? channelId, req.apply row = row)

/-! ## The two statements -/

section Statements

variable {s : AppState} {channelId : String} {req : UpdateChannelRequest}

/-- The store after the first statement. -/
def columnsWritten (channelId : String) (req : UpdateChannelRequest) (db : Db) : Db :=
  { db with channels := db.channels.update (·.id = channelId) req.apply req.apply_id }

/-- The second statement, with the check before it. -/
def writeChannelName (channelId : String) (name : Option String) : Handler Unit :=
  .whenSome name fun name => do
    .ensure (trim name ≠ "") ⟨.badRequest, "Channel name cannot be empty"⟩
    executeOr channelRenameError (renameChannel channelId (trim name))

theorem apply_of_not_needsUpdate (h : ¬ req.needsUpdate) (row : ChannelRow) :
    req.apply row = row := by
  obtain ⟨name, _ | _, _ | _, _ | _, _ | _, _ | _, _ | _⟩ := req
  · rfl
  all_goals exact absurd (by simp [UpdateChannelRequest.needsUpdate]) h

/-- A parent that passes the checks exists. -/
theorem has_of_checkMove {parentId : String} (h : (checkMove channelId parentId).Succeeds s) :
    s.db.channels.has parentId = true := by
  rw [(checkMove_reads channelId parentId).succeeds_iff] at h
  obtain ⟨_, -, h⟩ := Prog.reads_ensure.run_bind_ok h
  obtain ⟨_, hcategory, -⟩ := (requireCategory_reads parentId).run_bind_ok h
  have hknown := category_of_requireCategory hcategory
  by_contra hfree
  rw [Bool.not_eq_true, ← category_eq_none_iff, hknown] at hfree
  cases hfree

/-- Past the checks the first statement is not refused. -/
theorem run_updateColumns (channelId : String)
    (hparent : ∀ p ∈ req.parentId.join, s.db.channels.has p = true) :
    (Prog.when req.needsUpdate (execute (updateChannelRow channelId req))).run s =
      (.ok (), s.withDb (columnsWritten channelId req s.db)) := by
  by_cases hneeds : req.needsUpdate
  · rw [Prog.when, if_pos hneeds]
    apply run_execute_of_ok
    apply if_pos
    intro link hlink p hp
    have hthere : s.db.channels.has p = true := by
      apply hparent
      rw [Option.mem_def.mp hlink]
      exact hp
    obtain ⟨row, hrow, hid⟩ := Table.has_iff.mp hthere
    rw [Table.has_iff]
    refine ⟨_, List.mem_map_of_mem hrow, ?_⟩
    split_ifs
    · exact hid
    · exact hid
  · have hself : columnsWritten channelId req s.db = s.db := by
      unfold columnsWritten
      rw [Table.update_eq_self _ _ fun row _ _ => apply_of_not_needsUpdate hneeds row]
    rw [Prog.when, if_neg hneeds, hself]
    rfl

/-- The name of a channel is not among the columns of the first statement. -/
theorem renameChannel_columnsWritten_iff (name : String) :
    (∃ db, renameChannel channelId name (columnsWritten channelId req s.db) = .ok db) ↔
      ∀ row ∈ s.db.channels.rows, row.id ≠ channelId → row.name ≠ name := by
  have hnames : (columnsWritten channelId req s.db).channels.rows.any
      (fun row => row.id ≠ channelId ∧ row.name = name) =
        s.db.channels.rows.any fun row => row.id ≠ channelId ∧ row.name = name := by
    unfold columnsWritten
    rw [Table.rows_update, List.any_map]
    congr 1
    funext row
    by_cases hid : row.id = channelId
    · simp [hid, UpdateChannelRequest.apply]
    · simp [hid]
  unfold renameChannel
  rw [hnames]
  cases htaken : s.db.channels.rows.any fun row => row.id ≠ channelId ∧ row.name = name with
  | true =>
      obtain ⟨row, hrow, hboth⟩ := List.any_eq_true.mp htaken
      obtain ⟨hid, hname⟩ := of_decide_eq_true hboth
      apply iff_of_false
      · rintro ⟨db, h⟩
        cases h
      · exact fun h => h row hrow hid hname
  | false =>
      apply iff_of_true ⟨_, rfl⟩
      intro row hrow hid hname
      have hnone := List.any_eq_false.mp htaken row hrow
      exact hnone (decide_eq_true ⟨hid, hname⟩)

/-- Both statements together. -/
theorem channels_of_renameChannel {name : String} {db : Db}
    (h : renameChannel channelId name (columnsWritten channelId req s.db) = .ok db) :
    db.channels = s.db.channels.update (·.id = channelId)
      (fun row => { req.apply row with name := name }) req.apply_id := by
  unfold renameChannel at h
  split_ifs at h
  cases h
  apply Table.ext
  simp only [columnsWritten, Table.rows_update, List.map_map]
  congr 1
  funext row
  by_cases hid : row.id = channelId
  · simp [hid, UpdateChannelRequest.apply_id]
  · simp [hid]

end Statements

/-! ## When an update is whole -/

section Whole

variable {s : AppState} {user channelId : String} {req : UpdateChannelRequest}

theorem forall_rows_iff {p : ChannelRow → Prop} :
    (∀ row ∈ s.db.channels.rows, decide (row.id = channelId) = true → p row) ↔
      ∀ row ∈ s.db.channels.find? channelId, p row := by
  constructor
  · intro h row hrow
    obtain ⟨hmem, hid⟩ := Table.find?_eq_some_iff.mp (Option.mem_def.mp hrow)
    exact h row hmem (decide_eq_true hid)
  · intro h row hmem hid
    exact h row (Option.mem_def.mpr (Table.find?_eq_some_iff.mpr ⟨hmem, of_decide_eq_true hid⟩))

/-- What the two statements are to do, up to the second one. -/
theorem columnsWritten_eq_self_iff :
    (columnsWritten channelId req s.db).channels = s.db.channels ↔
      ∀ row ∈ s.db.channels.find? channelId, req.apply row = row :=
  (Table.update_eq_self_iff _ req.apply_id).trans forall_rows_iff

/-- A name that the channel can have is stored without the blanks around it. -/
theorem run_writeChannelName_of_open (req : UpdateChannelRequest) {name : String}
    (hopen : s.db.ChannelNameOpen channelId (trim name)) :
    ∃ db, (writeChannelName channelId (some name)).run
    (s.withDb (columnsWritten channelId req s.db)) =
        (.ok (), s.withDb db) ∧
      db.channels = s.db.channels.update (·.id = channelId)
        (fun row => { req.apply row with name := trim name }) req.apply_id := by
  obtain ⟨db, hrename⟩ := (renameChannel_columnsWritten_iff (trim name)).mpr hopen.2
  refine ⟨db, ?_, channels_of_renameChannel hrename⟩
  exact (Prog.run_bind_of_ok (Prog.run_ensure_of_pos hopen.1 _ _)).trans
    (run_executeOr_of_ok hrename)

/-- Any other name is refused, with the other columns written. -/
theorem run_writeChannelName_of_not_open (req : UpdateChannelRequest) {name : String}
    (hopen : ¬ s.db.ChannelNameOpen channelId (trim name)) :
    ∃ e, (writeChannelName channelId (some name)).run
    (s.withDb (columnsWritten channelId req s.db)) =
      (.error e, s.withDb (columnsWritten channelId req s.db)) := by
  by_cases hempty : trim name = ""
  · exact ⟨_, Prog.run_bind_of_error (Prog.run_ensure_of_neg (not_not_intro hempty) _ _)⟩
  · cases hrename : renameChannel channelId (trim name) (columnsWritten channelId req s.db) with
    | ok db =>
        have hfree := (renameChannel_columnsWritten_iff (trim name)).mp ⟨db, hrename⟩
        exact absurd ⟨hempty, hfree⟩ hopen
    | error e =>
        exact ⟨channelRenameError e, (Prog.run_bind_of_ok (Prog.run_ensure_of_pos hempty _ _)).trans
          (run_executeOr_of_error hrename)⟩

/-- The request after its first statement. -/
def finishChannelUpdate (channelId : String) (req : UpdateChannelRequest) : Handler StatusCode := do
  writeChannelName channelId req.name
  pure .ok

/-- The statement for the name, after the other columns have been written. -/
theorem finishWhole_iff (hpresent : s.db.channels.has channelId = true) :
    (finishChannelUpdate channelId req).AllOrNothing (SameChannels s)
      (fun _ t => t.db.channels =
        s.db.channels.update (·.id = channelId) req.requested req.requested_id)
      (s.withDb (columnsWritten channelId req s.db)) ↔
    ∀ name ∈ req.name,
      (s.db.ChannelNameOpen channelId (trim name) → trim name = name) ∧
        (¬ s.db.ChannelNameOpen channelId (trim name) →
          ∀ row ∈ s.db.channels.find? channelId, req.apply row = row) := by
  obtain ⟨row, hrow⟩ := Table.exists_find?_of_has hpresent
  unfold finishChannelUpdate
  cases hname : req.name with
  | none =>
      rw [Prog.allOrNothing_bind_of_ok (t := s.withDb (columnsWritten channelId req s.db)) rfl,
        Prog.allOrNothing_iff_of_ok (Prog.run_pure _ _)]
      apply iff_of_true
      · rw [withDb_db, columnsWritten, Table.update_eq_update_iff]
        intro row _ _
        rw [UpdateChannelRequest.requested, hname]
        rfl
      · intro name hnone
        cases hnone
  | some name =>
      have hrequested (row : ChannelRow) :
          req.requested row = { req.apply row with name := name } := by
        rw [UpdateChannelRequest.requested, hname]
        rfl
      simp only [Option.mem_some_iff, forall_eq']
      by_cases hopen : s.db.ChannelNameOpen channelId (trim name)
      · obtain ⟨db, hrun, hchannels⟩ := run_writeChannelName_of_open req hopen
        rw [Prog.allOrNothing_bind_of_ok hrun, Prog.allOrNothing_iff_of_ok (Prog.run_pure _ _),
          withDb_db, hchannels, Table.update_eq_update_iff, forall_rows_iff, hrow]
        simp [hrequested, hopen]
      · obtain ⟨e, hrun⟩ := run_writeChannelName_of_not_open req hopen
        rw [Prog.allOrNothing_bind_of_error hrun, SameChannels, withDb_db,
          columnsWritten_eq_self_iff]
        simp [hopen]

/-- Up to the statement for the name nothing can go wrong. -/
theorem updatesWhole_iff_finish :
    UpdatesWhole user channelId req s ↔ (PassesUpdateChecks user channelId req s →
      (finishChannelUpdate channelId req).AllOrNothing (SameChannels s)
        (fun _ t => t.db.channels =
          s.db.channels.update (·.id = channelId) req.requested req.requested_id)
        (s.withDb (columnsWritten channelId req s.db))) := by
  unfold UpdatesWhole updateChannel PassesUpdateChecks
  rw [Prog.allOrNothing_bind_of_ok (run_userPermissions user s),
    Prog.allOrNothing_bind_of_ok (run_fetch _ s),
    Prog.allOrNothing_ensure_bind (SameChannels.refl s), and_imp, and_imp]
  apply forall_congr'
  intro hpresent
  rw [Prog.allOrNothing_ofExcept_bind (SameChannels.refl s)]
  apply forall_congr'
  intro hauthorized
  have hmoves := Prog.reads_whenSome (o := req.parentId.join) (checkMove_reads channelId)
  rw [hmoves.allOrNothing_bind_iff (SameChannels.refl s)]
  have hcolumns (hparent : ∀ p ∈ req.parentId.join, (checkMove channelId p).Succeeds s) :=
    run_updateColumns channelId fun p hp => has_of_checkMove (hparent p hp)
  constructor
  · intro h hparent
    have hwhole := h () (hmoves.succeeds_iff.mp (Prog.succeeds_whenSome_iff.mpr hparent))
    rw [Prog.allOrNothing_bind_of_ok (hcolumns hparent)] at hwhole
    exact hwhole
  · intro h _ hchecked
    have hparent := Prog.succeeds_whenSome_iff.mp (hmoves.succeeds_iff.mpr hchecked)
    rw [Prog.allOrNothing_bind_of_ok (hcolumns hparent)]
    exact h hparent

end Whole

/-- An update is whole exactly if a name that the channel cannot have, or not as it is
written, comes with nothing else to change. -/
theorem updatesWhole_iff (user channelId : String) (req : UpdateChannelRequest) (s : AppState) :
    UpdatesWhole user channelId req s ↔ NameComesSafe user channelId req s := by
  rw [updatesWhole_iff_finish]
  apply forall_congr'
  intro hpasses
  exact finishWhole_iff hpasses.1

/-! ## A name that another channel has -/

def namedChannel (id : String) : ChannelRow :=
  { id := id, name := id, createdBy := "owner", parentId := none, createdAt := 1 }

/-- A hub with two channels. -/
def namedChannels : AppState :=
  { db :=
      { users := ⟨[{ publicKey := "owner", firstSeenAt := 1, lastSeenAt := 1 }], by decide⟩
        roles := ⟨[⟨"builtin-owner", "Owner", 999999, false, 0⟩], by decide⟩
        rolePermissions := ⟨[⟨"builtin-owner", "admin"⟩], by decide⟩
        userRoles := ⟨[⟨"owner", "builtin-owner", 1⟩], by decide⟩
        channels := ⟨[namedChannel "general", namedChannel "random"], by decide⟩ } }

/-- The request is refused, and the description has been replaced. -/
theorem namedChannels_not_updatesWhole :
    ¬ UpdatesWhole "owner" "random" { name := some "general", description := some "new" }
      namedChannels := by
  have hrun : ((updateChannel "owner" "random"
      { name := some "general", description := some "new" }).run namedChannels).1 =
        .error ⟨.conflict, "A channel with that name already exists"⟩ ∧
      ((updateChannel "owner" "random"
        { name := some "general", description := some "new" }).run namedChannels).2.db.channels ≠
          namedChannels.db.channels := by
    decide +kernel
  intro hwhole
  exact hrun.2 (hwhole.failed _ _ (Prod.ext hrun.1 rfl))

end Voxply.Hub
