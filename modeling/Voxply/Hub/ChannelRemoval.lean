/-
# Deleting a channel

`delete_channel` deletes what belongs to a channel table by table, and the channel last.
Foreign keys lead to a channel from more tables than those: posts go along with it, but a
webhook keeps it from being deleted, when the messages are gone already.  Webhooks are only
ever switched off, so that a channel that has had one stays.
-/

import Voxply.Hub.Channels
import Voxply.Hub.MessageIndex
import Voxply.Math.Atomic
import Voxply.Math.ForeignKey

namespace Voxply.Hub

open Voxply.Math

/-! ## Tables -/

structure ChannelSettingRow where
  channelId : String
  minTalkPower : Int
  deriving DecidableEq

structure WebhookRow where
  id : String
  channelId : String
  secretTokenHash : String
  displayName : String
  avatarUrl : Option String
  createdByPubkey : String
  rateLimit : Int
  active : Bool
  createdAt : Int
  deriving DecidableEq

structure MessageComponentRow where
  id : String
  messageId : String
  rowIdx : Int
  componentIdx : Int
  type : String
  configJson : String
  expiresAt : Option Int
  deriving DecidableEq

/-- The tables from which foreign keys lead to a channel. -/
structure ChannelTables where
  db : Db
  channelSettings : Table ChannelSettingRow ChannelSettingRow.channelId := ∅
  webhooks : Table WebhookRow WebhookRow.id := ∅
  messageComponents : Table MessageComponentRow MessageComponentRow.id := ∅

/-- Their foreign keys, directly to a channel or to a message or post of one. -/
structure ChannelTables.ForeignKeys (t : ChannelTables) : Prop where
  parents : t.db.channels.Refers (·.parentId) t.db.channels
  messages : t.db.messages.Refers (some ·.channelId) t.db.channels
  shares : t.db.allianceSharedChannels.Refers (some ·.channelId) t.db.channels
  bans : t.db.channelBans.Refers (some ·.channelId) t.db.channels
  settings : t.channelSettings.Refers (some ·.channelId) t.db.channels
  webhooks : t.webhooks.Refers (some ·.channelId) t.db.channels
  posts : t.db.posts.Refers (some ·.channelId) t.db.channels
  reactions : t.db.messageReactions.Refers (some ·.messageId) t.db.messages
  components : t.messageComponents.Refers (some ·.messageId) t.db.messages
  replies : t.db.postReplies.Refers (some ·.postId) t.db.posts
  quotes : t.db.postReplies.Refers (·.replyToId) t.db.postReplies

instance ChannelTables.decidableForeignKeys (t : ChannelTables) : Decidable t.ForeignKeys :=
  decidable_of_iff
    (t.db.channels.Refers (·.parentId) t.db.channels ∧
      t.db.messages.Refers (some ·.channelId) t.db.channels ∧
      t.db.allianceSharedChannels.Refers (some ·.channelId) t.db.channels ∧
      t.db.channelBans.Refers (some ·.channelId) t.db.channels ∧
      t.channelSettings.Refers (some ·.channelId) t.db.channels ∧
      t.webhooks.Refers (some ·.channelId) t.db.channels ∧
      t.db.posts.Refers (some ·.channelId) t.db.channels ∧
      t.db.messageReactions.Refers (some ·.messageId) t.db.messages ∧
      t.messageComponents.Refers (some ·.messageId) t.db.messages ∧
      t.db.postReplies.Refers (some ·.postId) t.db.posts ∧
      t.db.postReplies.Refers (·.replyToId) t.db.postReplies)
    ⟨fun ⟨h1, h2, h3, h4, h5, h6, h7, h8, h9, h10, h11⟩ =>
      ⟨h1, h2, h3, h4, h5, h6, h7, h8, h9, h10, h11⟩,
      fun ⟨h1, h2, h3, h4, h5, h6, h7, h8, h9, h10, h11⟩ =>
        ⟨h1, h2, h3, h4, h5, h6, h7, h8, h9, h10, h11⟩⟩

/-- A store that the schema allows. -/
structure ChannelStore where
  tables : ChannelTables
  foreignKeys : tables.ForeignKeys

/-! ## Statements -/

/-- `DELETE FROM messages WHERE channel_id = ?`: reactions and components go along. -/
def deleteMessagesOf (channelId : String) (t : ChannelTables) : ChannelTables :=
  { t with
    db := { t.db with
      messages := t.db.messages.keep (·.channelId ≠ channelId)
      messageReactions := t.db.messageReactions.cascade (some ·.messageId)
        (t.db.messages.keep (·.channelId ≠ channelId)) }
    messageComponents := t.messageComponents.cascade (some ·.messageId)
      (t.db.messages.keep (·.channelId ≠ channelId)) }

/-- `DELETE FROM channel_bans WHERE channel_id = ?`. -/
def deleteChannelBansOf (channelId : String) (t : ChannelTables) : ChannelTables :=
  { t with db := { t.db with channelBans := t.db.channelBans.keep (·.channelId ≠ channelId) } }

/-- `DELETE FROM channel_settings WHERE channel_id = ?`. -/
def deleteChannelSettingsOf (channelId : String) (t : ChannelTables) : ChannelTables :=
  { t with channelSettings := t.channelSettings.keep (·.channelId ≠ channelId) }

/-- `DELETE FROM alliance_shared_channels WHERE channel_id = ?`. -/
def deleteSharesOf (channelId : String) (t : ChannelTables) : ChannelTables :=
  { t with
    db := { t.db with
      allianceSharedChannels := t.db.allianceSharedChannels.keep (·.channelId ≠ channelId) } }

/-- The posts that are left without a channel. -/
def postsWithout (channelId : String) (db : Db) : Table PostRow PostRow.id :=
  db.posts.cascade (some ·.channelId) (db.channels.keep (·.id ≠ channelId))

/-- The replies that are left without these posts; none refers to one that is not. -/
def repliesWithout (channelId : String) (db : Db) : Table PostReplyRow PostReplyRow.id :=
  (db.postReplies.cascade (some ·.postId) (postsWithout channelId db)).clear (·.replyToId)
    (fun row => { row with replyToId := none }) (fun _ => rfl)
    (db.postReplies.cascade (some ·.postId) (postsWithout channelId db))

/-- `DELETE FROM channels WHERE id = ?`: posts and their replies go along, with their entries in
the index, and other replies no longer refer to these. -/
def deleteChannelRowOf (channelId : String) (t : ChannelTables) : ChannelTables :=
  { t with
    db := { t.db with
      channels := t.db.channels.keep (·.id ≠ channelId)
      posts := postsWithout channelId t.db
      postReplies := repliesWithout channelId t.db
      postsFts := t.db.postsFts.filter fun entry =>
        (t.db.posts.find? entry.postId).all fun row => (postsWithout channelId t.db).has row.id } }

namespace ChannelStore

/-- A statement of this store is refused if it breaks a foreign key. -/
def execute (f : ChannelTables → ChannelTables) : Prog ChannelStore ApiError Unit :=
  .attempt fun s =>
    if h : (f s.tables).ForeignKeys then .ok ⟨f s.tables, h⟩ else .error (dbError .foreignKey)

def fetch {A : Type} (f : Db → A) : Prog ChannelStore ApiError A :=
  .query fun s => f s.tables.db

/-- `delete_channel`, up to the event that it publishes. -/
def deleteChannel (user channelId : String) : Prog ChannelStore ApiError StatusCode := do
  let perms ← fetch (·.userPermissions user)
  .ofExcept (perms.require manageChannels)
  -- Check if channel exists
  let present ← fetch (·.channels.has channelId)
  .ensure (present = true) ⟨.notFound, "Channel not found"⟩
  -- Check for children (prevent deleting non-empty categories)
  let childCount ← fetch fun db => (db.channels.rows.filter (·.parentId = some channelId)).length
  .ensure (¬ childCount > 0) ⟨.conflict, "Cannot delete: category still has channels"⟩
  -- Clean up related data
  execute (deleteMessagesOf channelId)
  execute (deleteChannelBansOf channelId)
  execute (deleteChannelSettingsOf channelId)
  execute (deleteSharesOf channelId)
  execute (deleteChannelRowOf channelId)
  pure .noContent

/-! ## What is to hold -/

/-- The channel and what belongs to it is all there. -/
structure StillThere (channelId : String) (s t : ChannelStore) : Prop where
  channel : ∀ row ∈ s.tables.db.channels.rows, row.id = channelId → row ∈ t.tables.db.channels.rows
  messages : ∀ row ∈ s.tables.db.messages.rows, row.channelId = channelId →
    row ∈ t.tables.db.messages.rows
  bans : ∀ row ∈ s.tables.db.channelBans.rows, row.channelId = channelId →
    row ∈ t.tables.db.channelBans.rows
  settings : ∀ row ∈ s.tables.channelSettings.rows, row.channelId = channelId →
    row ∈ t.tables.channelSettings.rows
  shares : ∀ row ∈ s.tables.db.allianceSharedChannels.rows, row.channelId = channelId →
    row ∈ t.tables.db.allianceSharedChannels.rows

/-- The channel is gone and nothing refers to it. -/
structure Gone (channelId : String) (t : ChannelStore) : Prop where
  channel : t.tables.db.channels.has channelId = false
  children : ∀ row ∈ t.tables.db.channels.rows, row.parentId ≠ some channelId
  messages : ∀ row ∈ t.tables.db.messages.rows, row.channelId ≠ channelId
  bans : ∀ row ∈ t.tables.db.channelBans.rows, row.channelId ≠ channelId
  settings : ∀ row ∈ t.tables.channelSettings.rows, row.channelId ≠ channelId
  shares : ∀ row ∈ t.tables.db.allianceSharedChannels.rows, row.channelId ≠ channelId
  webhooks : ∀ row ∈ t.tables.webhooks.rows, row.channelId ≠ channelId
  posts : ∀ row ∈ t.tables.db.posts.rows, row.channelId ≠ channelId

/-- The caller may delete channels, and the channel exists and has no children. -/
structure Deletable (user channelId : String) (s : ChannelStore) : Prop where
  permitted : (s.tables.db.userPermissions user).require manageChannels = .ok ()
  present : s.tables.db.channels.has channelId = true
  childless : ∀ row ∈ s.tables.db.channels.rows, row.parentId ≠ some channelId

/-- An error destroys nothing, and every channel without children can be deleted, with whatever
refers to it. -/
structure DeletesWhole (user channelId : String) (s : ChannelStore) : Prop where
  whole : (deleteChannel user channelId).AllOrNothing (StillThere channelId s)
    (fun _ t => Gone channelId t) s
  succeeds : Deletable user channelId s → (deleteChannel user channelId).Succeeds s

/-! ## The statements, one by one -/

section Statements

variable {s t : ChannelStore} {channelId : String}

theorem run_fetch {A : Type} (f : Db → A) (s : ChannelStore) :
    (fetch f).run s = (.ok (f s.tables.db), s) := rfl

theorem run_execute {f : ChannelTables → ChannelTables} (h : (f s.tables).ForeignKeys) :
    (execute f).run s = (.ok ⟨⟩, ⟨f s.tables, h⟩) := by
  rw [execute, Prog.run_attempt, dif_pos h]

/-- A statement that breaks no foreign key. -/
def apply (s : ChannelStore) (f : ChannelTables → ChannelTables)
    (h : ∀ t : ChannelTables, t.ForeignKeys → (f t).ForeignKeys) : ChannelStore :=
  ⟨f s.tables, h s.tables s.foreignKeys⟩

theorem run_execute_of_keeps {f : ChannelTables → ChannelTables} (s : ChannelStore)
    (h : ∀ t : ChannelTables, t.ForeignKeys → (f t).ForeignKeys) :
    (execute f).run s = (.ok ⟨⟩, s.apply f h) :=
  run_execute (h s.tables s.foreignKeys)

theorem run_execute_of_broken {f : ChannelTables → ChannelTables} (h : ¬ (f s.tables).ForeignKeys) :
    (execute f).run s = (.error (dbError .foreignKey), s) := by
  rw [execute, Prog.run_attempt, dif_neg h]

/-- Without its own rows a table breaks no foreign key but those that lead to it. -/
theorem foreignKeys_deleteMessagesOf (channelId : String) (t : ChannelTables) (h : t.ForeignKeys) :
    (deleteMessagesOf channelId t).ForeignKeys :=
  { h with
    messages := h.messages.keep _
    reactions := Table.refers_cascade _ _ _
    components := Table.refers_cascade _ _ _ }

theorem foreignKeys_deleteChannelBansOf (channelId : String) (t : ChannelTables)
    (h : t.ForeignKeys) : (deleteChannelBansOf channelId t).ForeignKeys :=
  { h with bans := h.bans.keep _ }

theorem foreignKeys_deleteChannelSettingsOf (channelId : String) (t : ChannelTables)
    (h : t.ForeignKeys) : (deleteChannelSettingsOf channelId t).ForeignKeys :=
  { h with settings := h.settings.keep _ }

theorem foreignKeys_deleteSharesOf (channelId : String) (t : ChannelTables) (h : t.ForeignKeys) :
    (deleteSharesOf channelId t).ForeignKeys :=
  { h with shares := h.shares.keep _ }

/-- What the handler cleans up. -/
def cleaned (channelId : String) (t : ChannelTables) : ChannelTables :=
  deleteSharesOf channelId (deleteChannelSettingsOf channelId (deleteChannelBansOf channelId
    (deleteMessagesOf channelId t)))

theorem foreignKeys_cleaned (channelId : String) (t : ChannelTables) (h : t.ForeignKeys) :
    (cleaned channelId t).ForeignKeys := by
  apply foreignKeys_deleteSharesOf
  apply foreignKeys_deleteChannelSettingsOf
  apply foreignKeys_deleteChannelBansOf
  exact foreignKeys_deleteMessagesOf channelId t h

/-- No row of the tables that the handler thinks of refers to the channel. -/
structure Clean (channelId : String) (t : ChannelTables) : Prop where
  children : ∀ row ∈ t.db.channels.rows, row.parentId ≠ some channelId
  messages : ∀ row ∈ t.db.messages.rows, row.channelId ≠ channelId
  bans : ∀ row ∈ t.db.channelBans.rows, row.channelId ≠ channelId
  settings : ∀ row ∈ t.channelSettings.rows, row.channelId ≠ channelId
  shares : ∀ row ∈ t.db.allianceSharedChannels.rows, row.channelId ≠ channelId

theorem clean_cleaned {t : ChannelTables}
    (hchildless : ∀ row ∈ t.db.channels.rows, row.parentId ≠ some channelId) :
    Clean channelId (cleaned channelId t) where
  children := hchildless
  messages _ hrow := of_decide_eq_true (List.mem_filter.mp hrow).2
  bans _ hrow := of_decide_eq_true (List.mem_filter.mp hrow).2
  settings _ hrow := of_decide_eq_true (List.mem_filter.mp hrow).2
  shares _ hrow := of_decide_eq_true (List.mem_filter.mp hrow).2

theorem replies_repliesWithout (channelId : String) (db : Db) :
    (repliesWithout channelId db).Refers (some ·.postId) (postsWithout channelId db) :=
  (Table.refers_cascade _ _ _).clear _ fun _ => rfl

theorem quotes_repliesWithout (channelId : String) (db : Db) :
    (repliesWithout channelId db).Refers (·.replyToId) (repliesWithout channelId db) := by
  have hcleared : (repliesWithout channelId db).Refers (·.replyToId)
      (db.postReplies.cascade (some ·.postId) (postsWithout channelId db)) :=
    Table.refers_clear _ _ (fun _ => rfl) _
  apply hcleared.mono
  intro k hk
  rw [repliesWithout, Table.has_clear]
  exact hk

/-- In clean tables only a webhook keeps the channel. -/
theorem foreignKeys_deleteChannelRowOf_iff {t : ChannelTables} (h : t.ForeignKeys)
    (hclean : Clean channelId t) :
    (deleteChannelRowOf channelId t).ForeignKeys ↔
      ∀ row ∈ t.webhooks.rows, row.channelId ≠ channelId := by
  have hwebhooks := Table.refers_without_iff h.webhooks channelId
  constructor
  · intro hdeleted row hrow heq
    exact hwebhooks.mp hdeleted.webhooks row hrow (congrArg some heq)
  · intro hnone
    exact
      { parents := ((Table.refers_without_iff h.parents channelId).mpr hclean.children).keep _
        messages := (Table.refers_without_iff h.messages channelId).mpr fun row hrow heq =>
          hclean.messages row hrow (Option.some.inj heq)
        shares := (Table.refers_without_iff h.shares channelId).mpr fun row hrow heq =>
          hclean.shares row hrow (Option.some.inj heq)
        bans := (Table.refers_without_iff h.bans channelId).mpr fun row hrow heq =>
          hclean.bans row hrow (Option.some.inj heq)
        settings := (Table.refers_without_iff h.settings channelId).mpr fun row hrow heq =>
          hclean.settings row hrow (Option.some.inj heq)
        webhooks := hwebhooks.mpr fun row hrow heq => hnone row hrow (Option.some.inj heq)
        posts := Table.refers_cascade t.db.posts _ _
        reactions := h.reactions
        components := h.components
        replies := replies_repliesWithout channelId t.db
        quotes := quotes_repliesWithout channelId t.db }

/-- The store after the clean-up. -/
def afterCleanUp (channelId : String) (s : ChannelStore) : ChannelStore :=
  s.apply (cleaned channelId) (foreignKeys_cleaned channelId)

/-- Past the checks the handler cleans up, and then tries to delete the channel. -/
theorem run_deleteChannel {user : String} (h : Deletable user channelId s) :
    (deleteChannel user channelId).run s =
      ((do
        execute (deleteChannelRowOf channelId)
        pure .noContent) : Prog ChannelStore ApiError StatusCode).run
          (afterCleanUp channelId s) := by
  have hcount : (s.tables.db.channels.rows.filter (·.parentId = some channelId)).length = 0 := by
    rw [List.length_eq_zero_iff, List.filter_eq_nil_iff]
    intro row hrow
    simpa using h.childless row hrow
  have hnone : ¬ (s.tables.db.channels.rows.filter (·.parentId = some channelId)).length > 0 := by
    rw [hcount]
    exact Nat.lt_irrefl 0
  unfold deleteChannel
  rw [Prog.run_bind_of_ok (run_fetch _ s), h.permitted, Prog.run_bind_of_ok (Prog.run_ofExcept _ s),
    Prog.run_bind_of_ok (run_fetch _ s),
    Prog.run_bind_of_ok (Prog.run_ensure_of_pos h.present _ s),
    Prog.run_bind_of_ok (run_fetch _ s), Prog.run_bind_of_ok (Prog.run_ensure_of_pos hnone _ s),
    Prog.run_bind_of_ok (run_execute_of_keeps s (foreignKeys_deleteMessagesOf channelId)),
    Prog.run_bind_of_ok (run_execute_of_keeps _ (foreignKeys_deleteChannelBansOf channelId)),
    Prog.run_bind_of_ok (run_execute_of_keeps _ (foreignKeys_deleteChannelSettingsOf channelId)),
    Prog.run_bind_of_ok (run_execute_of_keeps _ (foreignKeys_deleteSharesOf channelId))]
  rfl

end Statements

/-! ## When a deletion is whole -/

section Whole

variable {s : ChannelStore} {user channelId : String}

theorem StillThere.refl (channelId : String) (s : ChannelStore) : StillThere channelId s s :=
  ⟨fun _ h _ => h, fun _ h _ => h, fun _ h _ => h, fun _ h _ => h, fun _ h _ => h⟩

/-- A request that does not pass the checks changes nothing. -/
theorem run_deleteChannel_of_not_deletable (h : ¬ Deletable user channelId s) :
    ∃ e, (deleteChannel user channelId).run s = (.error e, s) := by
  unfold deleteChannel
  rw [Prog.run_bind_of_ok (run_fetch _ s)]
  cases hpermitted : (s.tables.db.userPermissions user).require manageChannels with
  | error e => exact ⟨e, Prog.run_bind_of_error (Prog.run_ofExcept _ s)⟩
  | ok _ =>
      rw [Prog.run_bind_of_ok (Prog.run_ofExcept _ s), Prog.run_bind_of_ok (run_fetch _ s)]
      by_cases hpresent : s.tables.db.channels.has channelId = true
      · rw [Prog.run_bind_of_ok (Prog.run_ensure_of_pos hpresent _ s),
          Prog.run_bind_of_ok (run_fetch _ s)]
        refine ⟨_, Prog.run_bind_of_error (Prog.run_ensure_of_neg (fun hnone => h ?_) _ s)⟩
        refine ⟨hpermitted, hpresent, ?_⟩
        rw [gt_iff_lt, Nat.pos_iff_ne_zero, not_not, List.length_eq_zero_iff,
          List.filter_eq_nil_iff] at hnone
        exact fun row hrow => by simpa using hnone row hrow
      · exact ⟨_, Prog.run_bind_of_error (Prog.run_ensure_of_neg hpresent _ s)⟩

/-- What is left of a channel that has been deleted. -/
theorem gone_of_foreignKeys {t : ChannelTables} (hkeys : t.ForeignKeys) (hclean : Clean channelId t)
    (h : (deleteChannelRowOf channelId t).ForeignKeys) :
    Gone channelId ⟨deleteChannelRowOf channelId t, h⟩ where
  channel := by
    rw [Table.has_eq_false_iff]
    exact fun row hrow => of_decide_eq_true (List.mem_filter.mp hrow).2
  children row hrow := hclean.children row (List.mem_filter.mp hrow).1
  messages := hclean.messages
  bans := hclean.bans
  settings := hclean.settings
  shares := hclean.shares
  webhooks := (foreignKeys_deleteChannelRowOf_iff hkeys hclean).mp h
  posts row hrow := by
    rintro rfl
    obtain ⟨kept, hkept, hid⟩ := Table.has_iff.mp ((Table.mem_cascade.mp hrow).2 _ rfl)
    exact of_decide_eq_true (List.mem_filter.mp hkept).2 hid

/-- A deletion is whole exactly if no webhook is one of the channel's, or the request does not
pass the checks. -/
theorem deletesWhole_iff (user channelId : String) (s : ChannelStore) :
    DeletesWhole user channelId s ↔
      (Deletable user channelId s → ∀ row ∈ s.tables.webhooks.rows, row.channelId ≠ channelId) := by
  by_cases hdeletable : Deletable user channelId s
  · have hclean : Clean channelId (afterCleanUp channelId s).tables :=
      clean_cleaned hdeletable.childless
    have hiff := foreignKeys_deleteChannelRowOf_iff (afterCleanUp channelId s).foreignKeys hclean
    rw [imp_iff_right hdeletable]
    apply Iff.trans _ hiff
    by_cases hkeys : (deleteChannelRowOf channelId (afterCleanUp channelId s).tables).ForeignKeys
    · have hrun : (deleteChannel user channelId).run s = (.ok .noContent,
          ⟨deleteChannelRowOf channelId (afterCleanUp channelId s).tables, hkeys⟩) := by
        rw [run_deleteChannel hdeletable, Prog.run_bind_of_ok (run_execute hkeys)]
        rfl
      refine iff_of_true ⟨?_, fun _ => ⟨_, congrArg Prod.fst hrun⟩⟩ hkeys
      rw [Prog.allOrNothing_iff_of_ok hrun]
      exact gone_of_foreignKeys (afterCleanUp channelId s).foreignKeys hclean hkeys
    · refine iff_of_false (fun hwhole => ?_) hkeys
      obtain ⟨status, hok⟩ := hwhole.succeeds hdeletable
      rw [run_deleteChannel hdeletable, Prog.run_bind_of_error (run_execute_of_broken hkeys)] at hok
      cases hok
  · obtain ⟨e, hrun⟩ := run_deleteChannel_of_not_deletable hdeletable
    refine iff_of_true ⟨?_, fun h => absurd h hdeletable⟩ fun h => absurd h hdeletable
    rw [Prog.allOrNothing_iff_of_error hrun]
    exact StillThere.refl channelId s

/-- A request that passes the checks is answered by the last statement. -/
theorem answer_of_deletable (h : Deletable user channelId s) :
    ((deleteChannel user channelId).run s).1 =
      if s.tables.webhooks.rows.any (·.channelId = channelId) then .error (dbError .foreignKey)
      else .ok .noContent := by
  have hclean : Clean channelId (afterCleanUp channelId s).tables := clean_cleaned h.childless
  have hiff := foreignKeys_deleteChannelRowOf_iff (afterCleanUp channelId s).foreignKeys hclean
  have hwebhooks : (∀ row ∈ (afterCleanUp channelId s).tables.webhooks.rows,
      row.channelId ≠ channelId) ↔
      s.tables.webhooks.rows.any (·.channelId = channelId) = false := by
    rw [List.any_eq_false]
    simp only [decide_eq_true_eq]
    exact Iff.rfl
  rw [run_deleteChannel h]
  by_cases hkeys : (deleteChannelRowOf channelId (afterCleanUp channelId s).tables).ForeignKeys
  · rw [Prog.run_bind_of_ok (run_execute hkeys), hwebhooks.mp (hiff.mp hkeys)]
    rfl
  · have hsome : s.tables.webhooks.rows.any (·.channelId = channelId) = true := by
      rw [← Bool.not_eq_false, ← hwebhooks, ← hiff]
      exact hkeys
    rw [Prog.run_bind_of_error (run_execute_of_broken hkeys), hsome]
    rfl

/-- The answer is the one of the model of channels alone, where a flag stands for the webhooks. -/
theorem answer_deleteChannel (user channelId : String) (s : ChannelStore) (a : AppState)
    (ha : a.db = s.tables.db) :
    ((deleteChannel user channelId).run s).1 =
      ((Hub.deleteChannel (s.tables.webhooks.rows.any (·.channelId = channelId)) user channelId).run
        a).1 := by
  have hperms : (userPermissions user).run a = (.ok (s.tables.db.userPermissions user), a) := by
    rw [run_userPermissions, ha]
  have hfetch {A : Type} (f : Db → A) : (Hub.fetch f).run a = (.ok (f s.tables.db), a) := by
    rw [Hub.run_fetch, ha]
  have hcount : (s.tables.db.channels.rows.filter (·.parentId = some channelId)).length = 0 ↔
      ∀ row ∈ s.tables.db.channels.rows, row.parentId ≠ some channelId := by
    rw [List.length_eq_zero_iff, List.filter_eq_nil_iff]
    simp only [decide_eq_true_eq]
  unfold Hub.deleteChannel
  rw [Prog.run_bind_of_ok hperms]
  by_cases hdeletable : Deletable user channelId s
  · rw [answer_of_deletable hdeletable, hdeletable.permitted,
      Prog.run_bind_of_ok (Prog.run_ofExcept _ a), Prog.run_bind_of_ok (hfetch _),
      Prog.run_bind_of_ok (Prog.run_ensure_of_pos hdeletable.present _ a),
      Prog.run_bind_of_ok (hfetch _),
      Prog.run_bind_of_ok (Prog.run_ensure_of_pos (hcount.mpr hdeletable.childless) _ a)]
    cases hwebhooks : s.tables.webhooks.rows.any (·.channelId = channelId) with
    | true => rfl
    | false => rfl
  · unfold deleteChannel
    rw [Prog.run_bind_of_ok (run_fetch _ s)]
    cases hpermitted : (s.tables.db.userPermissions user).require manageChannels with
    | error e => rfl
    | ok _ =>
        rw [Prog.run_bind_of_ok (Prog.run_ofExcept _ s), Prog.run_bind_of_ok (run_fetch _ s),
          Prog.run_bind_of_ok (Prog.run_ofExcept _ a), Prog.run_bind_of_ok (hfetch _)]
        by_cases hpresent : s.tables.db.channels.has channelId = true
        · have hchild : ¬ (s.tables.db.channels.rows.filter
              (·.parentId = some channelId)).length = 0 := by
            rw [hcount]
            exact fun hchildless => hdeletable ⟨hpermitted, hpresent, hchildless⟩
          rw [Prog.run_bind_of_ok (Prog.run_ensure_of_pos hpresent _ s),
            Prog.run_bind_of_ok (run_fetch _ s),
            Prog.run_bind_of_error (Prog.run_ensure_of_neg (not_not_intro (by omega)) _ s),
            Prog.run_bind_of_ok (Prog.run_ensure_of_pos hpresent _ a),
            Prog.run_bind_of_ok (hfetch _),
            Prog.run_bind_of_error (Prog.run_ensure_of_neg hchild _ a)]
        · rw [Prog.run_bind_of_error (Prog.run_ensure_of_neg hpresent _ s),
            Prog.run_bind_of_error (Prog.run_ensure_of_neg hpresent _ a)]

end Whole

/-! ## A channel with a webhook -/

/-- A hub with a channel in which there is a message, and a webhook for it. -/
def hookedTables : ChannelTables where
  db :=
    { users := .single { publicKey := "owner", firstSeenAt := 1, lastSeenAt := 1 }
      roles := .single ⟨"builtin-owner", "Owner", 999999, false, 0⟩
      rolePermissions := .single ⟨"builtin-owner", "admin"⟩
      userRoles := .single ⟨"owner", "builtin-owner", 1⟩
      channels := .single
        { id := "c", name := "c", createdBy := "owner", parentId := none, createdAt := 1 }
      messages := .single
        { id := "m", channelId := "c", sender := "owner", content := "hi", createdAt := 2 } }
  webhooks := .single ⟨"w", "c", "hash", "builds", none, "owner", 5, false, 3⟩

def hookedStore : ChannelStore :=
  ⟨hookedTables, by decide⟩

/-- The message is gone, and the channel is not. -/
theorem hookedStore_not_deletesWhole : ¬ DeletesWhole "owner" "c" hookedStore := by
  have hrun : ((deleteChannel "owner" "c").run hookedStore).1 = .error (dbError .foreignKey) ∧
      ((deleteChannel "owner" "c").run hookedStore).2.tables.db.messages.rows = [] := by
    decide +kernel
  intro hwhole
  rcases hanswer : (deleteChannel "owner" "c").run hookedStore with ⟨e | a, t⟩
  · have hthere := (hwhole.whole.failed e t hanswer).messages
      { id := "m", channelId := "c", sender := "owner", content := "hi", createdAt := 2 }
      (by decide) rfl
    rw [hanswer] at hrun
    rw [hrun.2] at hthere
    cases hthere
  · rw [hanswer] at hrun
    cases hrun.1

end ChannelStore

end Voxply.Hub
