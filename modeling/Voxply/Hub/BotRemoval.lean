/-
# Deleting a service bot

`admin_delete_bot` deletes the bot, with which its commands and queued events go along, and then
its row among the users.  Foreign keys lead to the users from many tables, and none of these is
cleaned up: a bot that has sent a message stays among the users, when the bot itself is gone
already.  A second request is then told that there is no such bot.
-/

import Voxply.Hub.Roles
import Voxply.Math.Atomic
import Voxply.Math.ForeignKey

namespace Voxply.Hub

open Voxply.Math

/-! ## Tables -/

structure BotRow where
  publicKey : String
  displayName : String
  createdBy : String
  tokenHash : String
  webhookUrl : Option String
  createdAt : Int
  deriving DecidableEq

structure BotSlashCommandRow where
  id : String
  botPubkey : String
  command : String
  description : String
  createdAt : Int
  deriving DecidableEq

structure BotEventQueueRow where
  id : String
  botPubkey : String
  eventType : String
  payload : String
  createdAt : Int
  delivered : Bool
  deriving DecidableEq

/-- Of an installed game, by whom. -/
structure HubGameRow where
  id : String
  installedBy : String
  deriving DecidableEq

structure VoiceMuteRow where
  targetPublicKey : String
  mutedBy : String
  reason : Option String
  createdAt : Int
  deriving DecidableEq

structure DhKeyRow where
  pubkey : String
  dhPubkeyHex : String
  signatureHex : String
  publishedAt : Int
  deriving DecidableEq

/-- Of an icon, by whom. -/
structure HubIconRow where
  id : String
  uploadedBy : String
  deriving DecidableEq

/-- The tables from which foreign keys lead to a user or a bot. -/
structure BotTables where
  db : Db
  bots : Table BotRow BotRow.publicKey := ∅
  botSlashCommands : Table BotSlashCommandRow BotSlashCommandRow.id := ∅
  botEventQueue : Table BotEventQueueRow BotEventQueueRow.id := ∅
  hubGames : Table HubGameRow HubGameRow.id := ∅
  voiceMutes : Table VoiceMuteRow VoiceMuteRow.targetPublicKey := ∅
  dhKeys : Table DhKeyRow DhKeyRow.pubkey := ∅
  hubIcons : Table HubIconRow HubIconRow.id := ∅

/-- The columns that are declared with `REFERENCES users(public_key)`. -/
def BotTables.userReferences (t : BotTables) : List String :=
  t.db.sessions.rows.map (·.publicKey) ++ t.db.channels.rows.map (·.createdBy) ++
    t.db.messages.rows.map (·.sender) ++ t.db.messageReactions.rows.map (·.userKey) ++
    t.db.userRoles.rows.map (·.userPublicKey) ++ t.db.bans.rows.map (·.targetPublicKey) ++
    t.db.mutes.rows.map (·.targetPublicKey) ++ t.hubGames.rows.map (·.installedBy) ++
    t.db.channelBans.rows.map (·.targetPublicKey) ++ t.voiceMutes.rows.map (·.targetPublicKey) ++
    t.db.conversationMembers.rows.map (·.publicKey) ++ t.db.friends.rows.map (·.userA) ++
    t.dhKeys.rows.map (·.pubkey) ++ t.hubIcons.rows.map (·.uploadedBy)

/-- The foreign keys that lead to a user or a bot. -/
structure BotTables.ForeignKeys (t : BotTables) : Prop where
  users : ∀ key ∈ t.userReferences, t.db.users.has key = true
  commands : t.botSlashCommands.Refers (some ·.botPubkey) t.bots
  events : t.botEventQueue.Refers (some ·.botPubkey) t.bots

instance BotTables.decidableForeignKeys (t : BotTables) : Decidable t.ForeignKeys :=
  decidable_of_iff
    ((∀ key ∈ t.userReferences, t.db.users.has key = true) ∧
      t.botSlashCommands.Refers (some ·.botPubkey) t.bots ∧
      t.botEventQueue.Refers (some ·.botPubkey) t.bots)
    ⟨fun ⟨h1, h2, h3⟩ => ⟨h1, h2, h3⟩, fun ⟨h1, h2, h3⟩ => ⟨h1, h2, h3⟩⟩

/-- A store that the schema allows. -/
structure BotStore where
  tables : BotTables
  foreignKeys : tables.ForeignKeys

/-! ## The handler -/

/-- `DELETE FROM bots WHERE public_key = ?`: commands and queued events go along. -/
def deleteBotRowOf (pubkey : String) (t : BotTables) : BotTables :=
  { t with
    bots := t.bots.keep (·.publicKey ≠ pubkey)
    botSlashCommands := t.botSlashCommands.cascade (some ·.botPubkey)
      (t.bots.keep (·.publicKey ≠ pubkey))
    botEventQueue := t.botEventQueue.cascade (some ·.botPubkey)
      (t.bots.keep (·.publicKey ≠ pubkey)) }

/-- `DELETE FROM users WHERE public_key = ?`. -/
def deleteUserRowOf (pubkey : String) (t : BotTables) : BotTables :=
  { t with db := { t.db with users := t.db.users.keep (·.publicKey ≠ pubkey) } }

namespace BotStore

/-- A statement of this store is refused if it breaks a foreign key. -/
def execute (f : BotTables → BotTables) : Prog BotStore ApiError Unit :=
  .attempt fun s =>
    if h : (f s.tables).ForeignKeys then .ok ⟨f s.tables, h⟩ else .error (dbError .foreignKey)

def fetch {A : Type} (f : BotTables → A) : Prog BotStore ApiError A :=
  .query fun s => f s.tables

/-- Creator can delete; admin can delete anyone's bot. -/
def requireCreatorOrAdmin (user : String) (bot : BotRow) : Prog BotStore ApiError Unit :=
  if bot.createdBy ≠ user then do
    let perms ← fetch (·.db.userPermissions user)
    .ofExcept (perms.require admin)
  else pure ()

/-- `admin_delete_bot`. -/
def adminDeleteBot (user pubkey : String) : Prog BotStore ApiError StatusCode := do
  let found ← fetch (·.bots.find? pubkey)
  match found with
  | none => .fail ⟨.notFound, "Bot not found"⟩
  | some bot => do
      requireCreatorOrAdmin user bot
      -- Cascade deletes slash_commands and event_queue via FK.
      execute (deleteBotRowOf pubkey)
      -- Clean up the users row so the bot disappears from member lists.
      execute (deleteUserRowOf pubkey)
      pure .noContent

/-! ## What is to hold -/

/-- The bot and what belongs to it is all there. -/
structure StillThere (pubkey : String) (s t : BotStore) : Prop where
  bot : ∀ row ∈ s.tables.bots.rows, row.publicKey = pubkey → row ∈ t.tables.bots.rows
  commands : ∀ row ∈ s.tables.botSlashCommands.rows, row.botPubkey = pubkey →
    row ∈ t.tables.botSlashCommands.rows
  events : ∀ row ∈ s.tables.botEventQueue.rows, row.botPubkey = pubkey →
    row ∈ t.tables.botEventQueue.rows
  user : ∀ row ∈ s.tables.db.users.rows, row.publicKey = pubkey → row ∈ t.tables.db.users.rows

/-- Nothing of the bot is left. -/
structure Gone (pubkey : String) (t : BotStore) : Prop where
  bot : t.tables.bots.has pubkey = false
  commands : ∀ row ∈ t.tables.botSlashCommands.rows, row.botPubkey ≠ pubkey
  events : ∀ row ∈ t.tables.botEventQueue.rows, row.botPubkey ≠ pubkey
  user : t.tables.db.users.has pubkey = false

/-- The bot exists, and the caller has created it or is an admin. -/
def Deletable (user pubkey : String) (s : BotStore) : Prop :=
  ∃ bot, s.tables.bots.find? pubkey = some bot ∧
    (bot.createdBy = user ∨ (s.tables.db.userPermissions user).require admin = .ok ())

/-- An error destroys nothing, a success leaves nothing, and every bot can be deleted, whatever
refers to it. -/
structure DeletesWhole (user pubkey : String) (s : BotStore) : Prop where
  whole : (adminDeleteBot user pubkey).AllOrNothing (StillThere pubkey s)
    (fun _ t => Gone pubkey t) s
  succeeds : Deletable user pubkey s → (adminDeleteBot user pubkey).Succeeds s

/-! ## The statements, one by one -/

section Statements

variable {s : BotStore} {user pubkey : String}

theorem run_fetch {A : Type} (f : BotTables → A) (s : BotStore) :
    (fetch f).run s = (.ok (f s.tables), s) := rfl

theorem run_execute {f : BotTables → BotTables} (h : (f s.tables).ForeignKeys) :
    (execute f).run s = (.ok ⟨⟩, ⟨f s.tables, h⟩) := by
  rw [execute, Prog.run_attempt, dif_pos h]

theorem run_execute_of_broken {f : BotTables → BotTables} (h : ¬ (f s.tables).ForeignKeys) :
    (execute f).run s = (.error (dbError .foreignKey), s) := by
  rw [execute, Prog.run_attempt, dif_neg h]

/-- Nothing refers to a bot that does not go along with it. -/
theorem foreignKeys_deleteBotRowOf (pubkey : String) {t : BotTables} (h : t.ForeignKeys) :
    (deleteBotRowOf pubkey t).ForeignKeys where
  users := h.users
  commands := Table.refers_cascade _ _ _
  events := Table.refers_cascade _ _ _

/-- A user can go exactly if no row refers to it. -/
theorem foreignKeys_deleteUserRowOf_iff {t : BotTables} (h : t.ForeignKeys) :
    (deleteUserRowOf pubkey t).ForeignKeys ↔ pubkey ∉ t.userReferences := by
  constructor
  · intro hdeleted hmem
    obtain ⟨row, hrow, hkey⟩ := Table.has_iff.mp (hdeleted.users pubkey hmem)
    exact of_decide_eq_true (List.mem_filter.mp hrow).2 hkey
  · intro hnone
    refine ⟨fun key hkey => ?_, h.commands, h.events⟩
    obtain ⟨row, hrow, rfl⟩ := Table.has_iff.mp (h.users key hkey)
    refine Table.has_iff.mpr ⟨row, List.mem_filter.mpr ⟨hrow, decide_eq_true ?_⟩, rfl⟩
    rintro rfl
    exact hnone hkey

/-- The store without the bot. -/
def withoutBot (pubkey : String) (s : BotStore) : BotStore :=
  ⟨deleteBotRowOf pubkey s.tables, foreignKeys_deleteBotRowOf pubkey s.foreignKeys⟩

/-- The caller is let through exactly if the bot is theirs or they are an admin. -/
theorem run_requireCreatorOrAdmin (user : String) (bot : BotRow) (s : BotStore) :
    (requireCreatorOrAdmin user bot).run s =
      (if bot.createdBy = user then .ok () else (s.tables.db.userPermissions user).require admin,
        s) := by
  rw [requireCreatorOrAdmin]
  by_cases hown : bot.createdBy = user
  · rw [if_neg (not_not_intro hown), if_pos hown]
    rfl
  · rw [if_pos hown, if_neg hown, Prog.run_bind_of_ok (run_fetch _ s), Prog.run_ofExcept]

/-- Past the checks the bot is deleted, and then its user is tried. -/
theorem run_adminDeleteBot (h : Deletable user pubkey s) :
    (adminDeleteBot user pubkey).run s =
      ((do
        execute (deleteUserRowOf pubkey)
        pure .noContent) : Prog BotStore ApiError StatusCode).run (withoutBot pubkey s) := by
  obtain ⟨bot, hfound, hallowed⟩ := h
  have hpasses : (requireCreatorOrAdmin user bot).run s = (.ok (), s) := by
    rw [run_requireCreatorOrAdmin]
    rcases hallowed with hown | hadmin
    · rw [if_pos hown]
    · rw [hadmin, ite_self]
  rw [adminDeleteBot, Prog.run_bind_of_ok (run_fetch _ s), hfound]
  dsimp only
  rw [Prog.run_bind_of_ok hpasses,
    Prog.run_bind_of_ok (run_execute (foreignKeys_deleteBotRowOf pubkey s.foreignKeys))]
  rfl

/-- A request that does not pass the checks changes nothing. -/
theorem run_adminDeleteBot_of_not_deletable (h : ¬ Deletable user pubkey s) :
    ∃ e, (adminDeleteBot user pubkey).run s = (.error e, s) := by
  rw [adminDeleteBot, Prog.run_bind_of_ok (run_fetch _ s)]
  cases hfound : s.tables.bots.find? pubkey with
  | none => exact ⟨_, rfl⟩
  | some bot =>
      have hown : bot.createdBy ≠ user := fun hown => h ⟨bot, hfound, .inl hown⟩
      have hcheck := run_requireCreatorOrAdmin user bot s
      rw [if_neg hown] at hcheck
      cases hadmin : (s.tables.db.userPermissions user).require admin with
      | error e =>
          rw [hadmin] at hcheck
          exact ⟨e, Prog.run_bind_of_error hcheck⟩
      | ok _ => exact absurd ⟨bot, hfound, .inr hadmin⟩ h

end Statements

/-! ## When a deletion is whole -/

section Whole

variable {s : BotStore} {user pubkey : String}

theorem StillThere.refl (pubkey : String) (s : BotStore) : StillThere pubkey s s :=
  ⟨fun _ h _ => h, fun _ h _ => h, fun _ h _ => h, fun _ h _ => h⟩

theorem gone_deleteUserRowOf
    (h : (deleteUserRowOf pubkey (withoutBot pubkey s).tables).ForeignKeys) :
    Gone pubkey ⟨deleteUserRowOf pubkey (withoutBot pubkey s).tables, h⟩ := by
  have hbot : (s.tables.bots.keep (·.publicKey ≠ pubkey)).has pubkey = false := by
    rw [Table.has_eq_false_iff]
    exact fun row hrow => of_decide_eq_true (List.mem_filter.mp hrow).2
  have hnone {α : Type} {κ : Type} {key : α → κ} {table : Table α key} {column : α → String}
      {row : α} (hrow : row ∈ (table.cascade (some <| column ·)
        (s.tables.bots.keep (·.publicKey ≠ pubkey))).rows) : column row ≠ pubkey := by
    rintro rfl
    have hhas := (Table.mem_cascade.mp hrow).2 _ rfl
    rw [hbot] at hhas
    cases hhas
  exact {
    bot := hbot
    commands := fun row hrow => hnone hrow
    events := fun row hrow => hnone hrow
    user := by
      rw [Table.has_eq_false_iff]
      exact fun row hrow => of_decide_eq_true (List.mem_filter.mp hrow).2 }

/-- A deletion is whole exactly if no row refers to the bot as a user, or the request does not
pass the checks. -/
theorem deletesBotWhole_iff (user pubkey : String) (s : BotStore) :
    DeletesWhole user pubkey s ↔
      (Deletable user pubkey s → pubkey ∉ s.tables.userReferences) := by
  by_cases hdeletable : Deletable user pubkey s
  · rw [imp_iff_right hdeletable]
    have hiff : (deleteUserRowOf pubkey (withoutBot pubkey s).tables).ForeignKeys ↔
        pubkey ∉ s.tables.userReferences :=
      foreignKeys_deleteUserRowOf_iff (withoutBot pubkey s).foreignKeys
    rw [← hiff]
    by_cases hkeys : (deleteUserRowOf pubkey (withoutBot pubkey s).tables).ForeignKeys
    · have hrun : (adminDeleteBot user pubkey).run s =
          (.ok .noContent, ⟨deleteUserRowOf pubkey (withoutBot pubkey s).tables, hkeys⟩) := by
        rw [run_adminDeleteBot hdeletable, Prog.run_bind_of_ok (run_execute hkeys)]
        rfl
      refine iff_of_true ⟨?_, fun _ => ⟨_, congrArg Prod.fst hrun⟩⟩ hkeys
      rw [Prog.allOrNothing_iff_of_ok hrun]
      exact gone_deleteUserRowOf hkeys
    · refine iff_of_false (fun hwhole => ?_) hkeys
      obtain ⟨status, hok⟩ := hwhole.succeeds hdeletable
      rw [run_adminDeleteBot hdeletable,
        Prog.run_bind_of_error (run_execute_of_broken hkeys)] at hok
      cases hok
  · obtain ⟨e, hrun⟩ := run_adminDeleteBot_of_not_deletable hdeletable
    refine iff_of_true ⟨?_, fun h => absurd h hdeletable⟩ fun h => absurd h hdeletable
    rw [Prog.allOrNothing_iff_of_error hrun]
    exact StillThere.refl pubkey s

/-- Once the deletion has failed half-way, there is no bot that could be deleted. -/
theorem adminDeleteBot_again (h : Deletable user pubkey s)
    (hreferred : pubkey ∈ s.tables.userReferences) :
    ((adminDeleteBot user pubkey).run ((adminDeleteBot user pubkey).run s).2).1 =
      .error ⟨.notFound, "Bot not found"⟩ := by
  have hkeys : ¬ (deleteUserRowOf pubkey (withoutBot pubkey s).tables).ForeignKeys := fun hkeys =>
    (foreignKeys_deleteUserRowOf_iff (withoutBot pubkey s).foreignKeys).mp hkeys hreferred
  have hgone : (withoutBot pubkey s).tables.bots.find? pubkey = none :=
    Table.find?_eq_none_iff.mpr fun row hrow => of_decide_eq_true (List.mem_filter.mp hrow).2
  rw [run_adminDeleteBot h, Prog.run_bind_of_error (run_execute_of_broken hkeys), adminDeleteBot,
    Prog.run_bind_of_ok (run_fetch _ _), hgone]
  rfl

end Whole

/-! ## A bot that has sent a message -/

/-- A hub with a bot that has sent a message. -/
def talkativeTables : BotTables where
  db :=
    { users := ⟨[{ publicKey := "owner", firstSeenAt := 1, lastSeenAt := 1 },
        { publicKey := "bot", firstSeenAt := 2, lastSeenAt := 2, isBot := true }], by decide⟩
      channels := .single
        { id := "c", name := "c", createdBy := "owner", parentId := none, createdAt := 1 }
      messages := .single
        { id := "m", channelId := "c", sender := "bot", content := "hi", createdAt := 3 } }
  bots := ⟨[⟨"bot", "Bot", "owner", "hash", none, 2⟩], by decide⟩

def talkativeStore : BotStore :=
  ⟨talkativeTables, by decide⟩

/-- The deletion fails, and the bot is gone. -/
theorem talkativeStore_not_deletesWhole : ¬ DeletesWhole "owner" "bot" talkativeStore := by
  have hrun : ((adminDeleteBot "owner" "bot").run talkativeStore).1 =
      .error (dbError .foreignKey) := by
    decide +kernel
  intro hwhole
  obtain ⟨status, hok⟩ :=
    hwhole.succeeds ⟨⟨"bot", "Bot", "owner", "hash", none, 2⟩, by decide, .inl rfl⟩
  rw [hrun] at hok
  cases hok

end BotStore

end Voxply.Hub
