/-
# The index of the messages

Messages are searched with a full-text index that keeps no texts of its own: it
refers to the rows of `messages` by their rowid, and a query of it that does not
search reads that table.  Triggers keep it up to date.  When a hub is upgraded, the
messages that it already has are to be entered into the index; those are selected by
a query of the index that does not search, and there are never any.

The triggers keep a right index right, and with a right index a search finds exactly
the messages that match.  So the index is right after an upgrade and whatever follows
exactly if there was nothing to enter: no message, or an index that was right already.
-/

import Voxply.Hub.Messages

namespace Voxply.Hub

open Voxply.Math

/-! ## The store -/

/-- A store with what SQLite knows about its messages. Rowids are unique. An index
entry is a rowid with the text that is indexed under it; there are none before
`messages_fts` is created. -/
structure MessageStore where
  db : Db
  rowid : String → Int
  rowid_inj : ∀ a ∈ db.messages.rows, ∀ b ∈ db.messages.rows, rowid a.id = rowid b.id → a.id = b.id
  messagesFts : Option (List (Int × String))

namespace MessageStore

def entry (store : MessageStore) (row : MessageRow) : Int × String :=
  (store.rowid row.id, row.content)

/-- What the index should hold. -/
def entries (store : MessageStore) : List (Int × String) :=
  store.db.messages.rows.map store.entry

/-- `SELECT rowid FROM messages_fts`: a query that does not search reads `messages`. -/
def ftsRowids (store : MessageStore) : List Int :=
  store.db.messages.rows.map fun row => store.rowid row.id

/-- What the back-fill selects. -/
def backfill (store : MessageStore) : List (Int × String) :=
  (store.db.messages.rows.filter fun row => store.rowid row.id ∉ store.ftsRowids).map store.entry

/-- `migrations::run`, as far as messages are concerned. -/
def migrate (store : MessageStore) : MessageStore :=
  { store with messagesFts := some (store.messagesFts.getD [] ++ store.backfill) }

/-! ## Statements -/

/-- The rowid of the next message. -/
def nextRowid (store : MessageStore) : Int :=
  store.ftsRowids.max?.getD 0 + 1

/-- Other messages, all of them known ones. -/
def withDb (store : MessageStore) (db : Db)
    (hknown : ∀ row ∈ db.messages.rows, ∃ old ∈ store.db.messages.rows, old.id = row.id)
    (messagesFts : Option (List (Int × String))) : MessageStore where
  db := db
  rowid := store.rowid
  rowid_inj a ha b hb h := by
    rcases hknown a ha with ⟨a', ha', hida⟩
    rcases hknown b hb with ⟨b', hb', hidb⟩
    rw [← hida, ← hidb] at h ⊢
    exact store.rowid_inj a' ha' b' hb' h
  messagesFts := messagesFts

theorem rowid_lt_nextRowid (store : MessageStore) {row : MessageRow}
    (hrow : row ∈ store.db.messages.rows) : store.rowid row.id < store.nextRowid := by
  have hmem : store.rowid row.id ∈ store.ftsRowids := List.mem_map.mpr ⟨row, hrow, rfl⟩
  unfold nextRowid
  cases hmax : store.ftsRowids.max? with
  | none =>
      rw [List.max?_eq_none_iff.mp hmax] at hmem
      cases hmem
  | some top =>
      have hle := (List.max?_eq_some_iff.mp hmax).2 _ hmem
      rw [Option.getD_some]
      omega

theorem rows_insertMessage {row : MessageRow} {db db' : Db} (h : insertMessage row db = .ok db') :
    (∀ old ∈ db.messages.rows, old.id ≠ row.id) ∧
      db'.messages.rows = db.messages.rows ++ [row] := by
  unfold insertMessage at h
  cases hmessages : db.messages.insert? row with
  | none => simp [hmessages] at h
  | some messages =>
      rw [hmessages] at h
      dsimp only at h
      split_ifs at h
      cases h
      exact Table.insert?_eq_some_iff.mp hmessages

/-- A new message gets a rowid that no other one has. -/
theorem rowid_inj_insert (store : MessageStore) {row : MessageRow} {db : Db}
    (h : insertMessage row store.db = .ok db) :
    ∀ a ∈ db.messages.rows, ∀ b ∈ db.messages.rows,
      (if a.id = row.id then store.nextRowid else store.rowid a.id) =
        (if b.id = row.id then store.nextRowid else store.rowid b.id) → a.id = b.id := by
  rcases rows_insertMessage h with ⟨hfree, hrows⟩
  have hcases : ∀ a ∈ db.messages.rows, a ∈ store.db.messages.rows ∨ a.id = row.id := by
    intro a ha
    rw [hrows, List.mem_append, List.mem_singleton] at ha
    exact ha.imp_right fun heq => by rw [heq]
  intro a ha b hb hsame
  rcases hcases a ha with hold | hnew <;> rcases hcases b hb with hold' | hnew'
  · rw [if_neg (hfree a hold), if_neg (hfree b hold')] at hsame
    exact store.rowid_inj a hold b hold' hsame
  · rw [if_neg (hfree a hold), if_pos hnew'] at hsame
    exact absurd hsame (store.rowid_lt_nextRowid hold).ne
  · rw [if_pos hnew, if_neg (hfree b hold')] at hsame
    exact absurd hsame.symm (store.rowid_lt_nextRowid hold').ne
  · rw [hnew, hnew']

/-- A message is inserted; `messages_ai` fires. -/
def insert (store : MessageStore) (row : MessageRow) : MessageStore :=
  match hinsert : insertMessage row store.db with
  | .error _ => store
  | .ok db =>
      { db := db
        rowid := fun id => if id = row.id then store.nextRowid else store.rowid id
        rowid_inj := store.rowid_inj_insert hinsert
        messagesFts := store.messagesFts.map (· ++ [(store.nextRowid, row.content)]) }

/-- `UPDATE messages SET content = ?, edited_at = ? WHERE id = ?`; `messages_au` fires. -/
def edit (store : MessageStore) (id content : String) (now : Int) : MessageStore :=
  store.withDb (updateMessage id content now store.db)
    (by
      intro row hrow
      rcases List.mem_map.mp hrow with ⟨old, hold, rfl⟩
      exact ⟨old, hold, by split_ifs <;> rfl⟩)
    ((store.db.messages.find? id).elim store.messagesFts fun old =>
      store.messagesFts.map fun index =>
      index.erase (store.entry old) ++ [(store.rowid id, content)])

/-- `DELETE FROM messages WHERE id = ?`; `messages_ad` fires. -/
def delete (store : MessageStore) (id : String) : MessageStore :=
  store.withDb (deleteMessageRow id store.db)
    (fun row hrow => ⟨row, (List.mem_filter.mp hrow).1, rfl⟩)
    ((store.db.messages.find? id).elim store.messagesFts fun old =>
      store.messagesFts.map (·.erase (store.entry old)))

end MessageStore

/-- `DELETE FROM messages WHERE channel_id = ?`, which takes the reactions along. -/
def deleteMessagesIn (channelId : String) (db : Db) : Db :=
  { db with
    messages := db.messages.keep (·.channelId ≠ channelId)
    messageReactions := db.messageReactions.keep fun reaction =>
      (db.messages.find? reaction.messageId).all (·.channelId ≠ channelId) }

namespace MessageStore

/-- The messages of a channel are deleted; `messages_ad` fires for each of them. -/
def deleteChannel (store : MessageStore) (channelId : String) : MessageStore :=
  store.withDb (deleteMessagesIn channelId store.db)
    (fun row hrow => ⟨row, (List.mem_filter.mp hrow).1, rfl⟩)
    (store.messagesFts.map fun index => index.diff
      ((store.db.messages.rows.filter (·.channelId = channelId)).map store.entry))

end MessageStore

inductive MessageStatement where
  | insert (row : MessageRow)
  | edit (id content : String) (now : Int)
  | delete (id : String)
  | deleteChannel (channelId : String)
  /-- The hub is started once more. -/
  | migrate
  deriving DecidableEq

def MessageStatement.step : MessageStatement → MessageStore → MessageStore
  | .insert row, store => store.insert row
  | .edit id content now, store => store.edit id content now
  | .delete id, store => store.delete id
  | .deleteChannel channelId, store => store.deleteChannel channelId
  | .migrate, store => store.migrate

/-! ## Searching -/

namespace MessageStore

/-- The rowids that the index finds. -/
def matching (store : MessageStore) (hit : String → Bool) : List Int :=
  ((store.messagesFts.getD []).filter fun entry => hit entry.2).map Prod.fst

/-- The rows that `get_messages` selects, with the index as it is. -/
def messagePage (store : MessageStore) (fts : String → Except String (String → Bool))
    (channelId : String) (params : PaginationParams) : Except String (List MessageRow) :=
  match (params.q.map trim).filter (· ≠ "") with
  | some q =>
      (fts q).map fun hit =>
        newestFirst (store.db.messages.rows.filter fun row =>
          row.channelId = channelId ∧ store.rowid row.id ∈ store.matching hit)
          (min (params.limit.getD 50) 100)
  | none => store.db.messagePage fts channelId params

/-- The index holds the current text of every message, and nothing else. -/
def IndexRight (store : MessageStore) : Prop :=
  ∃ index, store.messagesFts = some index ∧ index.Perm store.entries

/-- The index is right, and `get_messages` finds what matches. -/
structure SearchRight (store : MessageStore) : Prop where
  index : store.IndexRight
  finds : ∀ fts channelId params,
    store.messagePage fts channelId params = store.db.messagePage fts channelId params

/-- There is nothing to back-fill: where there is no index there are no messages, and
where there is one it is right. -/
def Indexed (store : MessageStore) : Prop :=
  (store.messagesFts = none → store.db.messages.rows = []) ∧
    ∀ index ∈ store.messagesFts, index.Perm store.entries

section Searching

variable {store : MessageStore}

theorem mem_matching (h : store.IndexRight) (hit : String → Bool) {row : MessageRow}
    (hrow : row ∈ store.db.messages.rows) :
    store.rowid row.id ∈ store.matching hit ↔ hit row.content = true := by
  rcases h with ⟨index, hindex, hperm⟩
  unfold matching
  rw [hindex, Option.getD_some, List.mem_map]
  constructor
  · rintro ⟨entry, hentry, hid⟩
    rcases List.mem_filter.mp hentry with ⟨hmem, hhit⟩
    rcases List.mem_map.mp (hperm.mem_iff.mp hmem) with ⟨other, hother, rfl⟩
    have hsame : other = row :=
      store.db.messages.eq_of_key_eq hother hrow (store.rowid_inj other hother row hrow hid)
    rwa [hsame] at hhit
  · intro hhit
    refine ⟨store.entry row, List.mem_filter.mpr ⟨?_, hhit⟩, rfl⟩
    exact hperm.mem_iff.mpr (List.mem_map.mpr ⟨row, hrow, rfl⟩)

theorem IndexRight.searchRight (h : store.IndexRight) : store.SearchRight where
  index := h
  finds fts channelId params := by
    unfold messagePage
    split
    next q hq =>
      have hpage : store.db.messagePage fts channelId params = (fts q).map fun hit =>
          newestFirst (store.db.messages.rows.filter fun row =>
            row.channelId = channelId ∧ hit row.content) (min (params.limit.getD 50) 100) := by
        rw [Db.messagePage, hq]
      rw [hpage]
      congr 1
      funext hit
      congr 1
      apply List.filter_congr
      intro row hrow
      rw [decide_eq_decide, mem_matching h hit hrow]
    next => rfl

end Searching

/-! ## The triggers keep the index right -/

section Keeps

variable {store : MessageStore}

/-- The back-fill selects nothing. -/
theorem backfill_eq_nil (store : MessageStore) : store.backfill = [] := by
  have hnone : (store.db.messages.rows.filter fun row => store.rowid row.id ∉ store.ftsRowids) =
      [] := by
    rw [List.filter_eq_nil_iff]
    intro row hrow
    rw [decide_eq_true_iff, not_not]
    exact List.mem_map.mpr ⟨row, hrow, rfl⟩
  rw [backfill, hnone, List.map_nil]

/-- An upgrade leaves a right index exactly if there was nothing to back-fill. -/
theorem indexRight_migrate_iff : store.migrate.IndexRight ↔ store.Indexed := by
  have hfts : store.migrate.messagesFts = some (store.messagesFts.getD []) := by
    show some (store.messagesFts.getD [] ++ store.backfill) = _
    rw [backfill_eq_nil, List.append_nil]
  have hright : store.migrate.IndexRight ↔ (store.messagesFts.getD []).Perm store.entries := by
    unfold IndexRight
    rw [hfts]
    constructor
    · rintro ⟨index, hindex, hperm⟩
      cases hindex
      exact hperm
    · exact fun hperm => ⟨_, rfl, hperm⟩
  rw [hright, Indexed]
  cases store.messagesFts with
  | none => simp [entries, List.nil_perm]
  | some index => simp

theorem IndexRight.migrate (h : store.IndexRight) : store.migrate.IndexRight := by
  rw [indexRight_migrate_iff]
  rcases h with ⟨index, hindex, hperm⟩
  constructor
  · intro hnone
    rw [hindex] at hnone
    cases hnone
  · intro other hother
    rw [hindex] at hother
    cases hother
    exact hperm

theorem IndexRight.insert (h : store.IndexRight) (row : MessageRow) :
    (store.insert row).IndexRight := by
  unfold MessageStore.insert
  split
  next => exact h
  next db hinsert =>
    rcases rows_insertMessage hinsert with ⟨hfree, hrows⟩
    rcases h with ⟨index, hindex, hperm⟩
    refine ⟨index ++ [(store.nextRowid, row.content)], by simp [hindex], ?_⟩
    show (index ++ _).Perm (db.messages.rows.map fun other =>
      ((if other.id = row.id then store.nextRowid else store.rowid other.id), other.content))
    have hold : ∀ old ∈ store.db.messages.rows,
        ((if old.id = row.id then store.nextRowid else store.rowid old.id), old.content) =
          store.entry old := by
      intro old hmem
      rw [if_neg (hfree old hmem), entry]
    rw [hrows, List.map_append, List.map_congr_left hold, List.map_singleton, if_pos rfl]
    exact hperm.append_right _

/-- The entry of a message, and those of the others. -/
theorem erase_perm {index : List (Int × String)} (hperm : index.Perm store.entries) {id : String}
    {row : MessageRow} (hrow : store.db.messages.find? id = some row) :
    (index.erase (store.entry row)).Perm
      ((store.db.messages.keep (·.id ≠ id)).rows.map store.entry) := by
  have hall := hperm.trans ((Table.perm_cons_keep hrow).map store.entry)
  have hrest := hall.erase (store.entry row)
  rwa [List.map_cons, List.erase_cons_head] at hrest

theorem IndexRight.edit (h : store.IndexRight) (id content : String) (now : Int) :
    (store.edit id content now).IndexRight := by
  rcases h with ⟨index, hindex, hperm⟩
  unfold IndexRight MessageStore.edit MessageStore.withDb entries
  dsimp only
  cases hfound : store.db.messages.find? id with
  | none =>
      have hsame : (updateMessage id content now store.db).messages = store.db.messages := by
        refine Table.update_eq_self store.db.messages (f := fun row =>
          { row with content := content, editedAt := some now }) (fun _ => rfl) ?_
        intro row hrow hid
        exact absurd (of_decide_eq_true hid) (Table.find?_eq_none_iff.mp hfound row hrow)
      refine ⟨index, hindex, ?_⟩
      rw [hsame]
      exact hperm
  | some old =>
      have hid : old.id = id := (Table.find?_eq_some_iff.mp hfound).2
      refine ⟨index.erase (store.entry old) ++ [(store.rowid id, content)], by rw [hindex]; rfl, ?_⟩
      -- Both are the new entry of the message and the entries of the others.
      have hrows : (updateMessage id content now store.db).messages.rows.Perm
          ({ old with content := content, editedAt := some now } ::
            (store.db.messages.keep (·.id ≠ id)).rows) :=
        Table.perm_update hfound (f := fun row =>
          { row with content := content, editedAt := some now }) fun _ => rfl
      have hentry : store.entry { old with content := content, editedAt := some now } =
          (store.rowid id, content) := by
        rw [entry, hid]
      have hafter := hrows.map store.entry
      rw [List.map_cons, hentry] at hafter
      have hnew := (erase_perm hperm hfound).append_right [(store.rowid id, content)]
      exact (hnew.trans (List.perm_append_singleton _ _)).trans hafter.symm

theorem IndexRight.delete (h : store.IndexRight) (id : String) : (store.delete id).IndexRight := by
  rcases h with ⟨index, hindex, hperm⟩
  unfold IndexRight MessageStore.delete MessageStore.withDb entries
  dsimp only
  cases hfound : store.db.messages.find? id with
  | none =>
      have hsame : (deleteMessageRow id store.db).messages.rows = store.db.messages.rows := by
        apply List.filter_eq_self.mpr
        intro row hrow
        simpa using Table.find?_eq_none_iff.mp hfound row hrow
      refine ⟨index, hindex, ?_⟩
      rw [hsame]
      exact hperm
  | some old =>
      refine ⟨index.erase (store.entry old), by rw [hindex]; rfl, ?_⟩
      exact erase_perm hperm hfound

/-- Taking away the first part leaves the second. -/
theorem append_diff_self {α : Type} [BEq α] [LawfulBEq α] (first second : List α) :
    (first ++ second).diff first = second := by
  induction first with
  | nil => rfl
  | cons a rest ih =>
      rw [List.cons_append, List.diff_cons, List.erase_cons_head]
      exact ih

theorem IndexRight.deleteChannel (h : store.IndexRight) (channelId : String) :
    (store.deleteChannel channelId).IndexRight := by
  rcases h with ⟨index, hindex, hperm⟩
  unfold IndexRight MessageStore.deleteChannel MessageStore.withDb entries
  dsimp only
  rw [hindex]
  refine ⟨_, rfl, ?_⟩
  have hsplit := (List.filter_append_perm (fun row : MessageRow =>
    decide (row.channelId = channelId)) store.db.messages.rows).map store.entry
  have hdiff := (hperm.trans hsplit.symm).diff_right
    ((store.db.messages.rows.filter (·.channelId = channelId)).map store.entry)
  rw [List.map_append, append_diff_self] at hdiff
  have hkept : (store.db.messages.rows.filter fun row => !decide (row.channelId = channelId)) =
      (deleteMessagesIn channelId store.db).messages.rows := by
    apply List.filter_congr
    intro row _
    exact (decide_not ..).symm
  rw [hkept] at hdiff
  exact hdiff

theorem IndexRight.step (h : store.IndexRight) (statement : MessageStatement) :
    (statement.step store).IndexRight := by
  cases statement with
  | insert row => exact h.insert row
  | edit id content now => exact h.edit id content now
  | delete id => exact h.delete id
  | deleteChannel channelId => exact h.deleteChannel channelId
  | migrate => exact h.migrate

end Keeps

end MessageStore

/-- After an upgrade and whatever follows, the index is right and searches find what
matches, exactly if there was nothing to back-fill. -/
theorem searchRight_iff_indexed (store : MessageStore) :
    (∀ statements, (runAll MessageStatement.step statements store.migrate).SearchRight) ↔
      store.Indexed := by
  constructor
  · intro h
    exact MessageStore.indexRight_migrate_iff.mp (h []).index
  · intro h statements
    apply MessageStore.IndexRight.searchRight
    apply invariant_runAll MessageStore.IndexRight _ statements
    · exact MessageStore.indexRight_migrate_iff.mpr h
    · exact fun statement store hright => hright.step statement

/-- A hub from before there was an index, with one message. -/
def unindexedStore : MessageStore where
  db := { Db.migrated with
    users := ⟨[{ publicKey := "alice", firstSeenAt := 0, lastSeenAt := 0 }], by decide⟩
    channels := ⟨[⟨"general", "general", "alice", none, false, 0, none, none, none, none,
      .text, 0, 0⟩], by decide⟩
    messages := ⟨[⟨"hello", "general", "alice", "hello", [], none, 1, none, none⟩], by decide⟩ }
  rowid := fun _ => 1
  rowid_inj := by decide
  messagesFts := none

/-- Every text matches the query. -/
def anyText : String → Except String (String → Bool) :=
  fun _ => .ok fun _ => true

/-- After the upgrade the message is there, and no search finds it. -/
theorem unindexedStore_not_searchRight :
    unindexedStore.migrate.messagePage anyText "general" ⟨none, none, some "hello"⟩ = .ok [] ∧
      unindexedStore.migrate.db.messagePage anyText "general" ⟨none, none, some "hello"⟩ ≠ .ok [] ∧
      ¬ unindexedStore.migrate.SearchRight := by
  have hfound : unindexedStore.migrate.messagePage anyText "general" ⟨none, none, some "hello"⟩ =
      .ok [] := by decide +kernel
  have hmatches : unindexedStore.migrate.db.messagePage anyText "general"
      ⟨none, none, some "hello"⟩ ≠ .ok [] := by decide +kernel
  refine ⟨hfound, hmatches, fun h => hmatches ?_⟩
  rw [← h.finds, hfound]

end Voxply.Hub
