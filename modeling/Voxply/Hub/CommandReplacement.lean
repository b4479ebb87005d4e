/-
# Replacing the commands of a bot

A bot's commands are replaced by deleting them all and inserting those submitted one after the
other, in each of three handlers.  A name that comes twice is refused by the key of the table when
the old commands are gone and those before it are stored; `ext_accept_invite` has used up the
invite by then.

Two of the handlers keep the commands of a profile as they are submitted, and one the commands of
a service bot, by trimmed words in lower case.
-/

import Voxply.Hub.VerifyAtomicity
import Voxply.Hub.BotLifecycle
import Voxply.Hub.BotRemoval

namespace Voxply.Hub

open Voxply.Math Voxply.Identity

/-! ## The handlers -/

/-- `ext_update_bot_commands`. -/
def extUpdateBotCommands (user : String) (commands : List BotCommandDef) : Handler StatusCode := do
  let isBot ← fetch fun db => (db.users.find? user).map (·.isBot)
  .ensure (isBot = some true) ⟨.forbidden, "Not a bot identity"⟩
  write (deleteBotCommands user)
  .each commands fun cmd => execute (insertBotCommand (cmd.row user))
  pure .ok

structure CommandInput where
  command : String
  description : String
  deriving DecidableEq

/-- The words are taken in lower case, and tokens are compared by their hashes. -/
structure SlashWorld where
  toLowercase : String → String
  hashToken : String → String

/-- `authenticate_bot`, with what follows `Bearer` in the header. -/
def authenticateBot (world : SlashWorld) (bearer : Option String) :
    Prog BotTables ApiError BotRow :=
  match bearer with
  | none => .fail ⟨.unauthorized, "Missing bot token"⟩
  | some raw => do
      let found ← .query fun t => t.bots.rows.find? (·.tokenHash = world.hashToken raw)
      match found with
      | none => .fail ⟨.unauthorized, "Invalid bot token"⟩
      | some bot => pure bot

/-- `DELETE FROM bot_slash_commands WHERE bot_pubkey = ?`. -/
def deleteSlashCommandsOf (pubkey : String) (t : BotTables) : BotTables :=
  { t with botSlashCommands := t.botSlashCommands.keep (·.botPubkey ≠ pubkey) }

/-- Whether the bot has the command. -/
def BotTables.hasCommand (t : BotTables) (pubkey command : String) : Bool :=
  t.botSlashCommands.rows.any fun row => row.botPubkey = pubkey ∧ row.command = command

/-- `INSERT INTO bot_slash_commands`; the command is unique for the bot. -/
def insertSlashCommand (row : BotSlashCommandRow) (t : BotTables) : Except ApiError BotTables :=
  match t.botSlashCommands.insert? row with
  | none => .error (dbError (.primaryKey "bot_slash_commands.id"))
  | some table =>
      if t.hasCommand row.botPubkey row.command then
        .error (dbError (.unique "bot_slash_commands.bot_pubkey, bot_slash_commands.command"))
      else if t.bots.has row.botPubkey then .ok { t with botSlashCommands := table }
      else .error (dbError .foreignKey)

/-- The identifiers that are drawn for new rows: no two are the same, and none is there yet. -/
structure NewIds (t : BotTables) where
  id : ℕ → String
  injective : Function.Injective id
  free : ∀ n, t.botSlashCommands.has (id n) = false

/-- `cmd.command.trim().to_lowercase()`. -/
def CommandInput.word (world : SlashWorld) (cmd : CommandInput) : String :=
  world.toLowercase (trim cmd.command)

def CommandInput.row (world : SlashWorld) (now : Int) (pubkey id : String) (cmd : CommandInput) :
    BotSlashCommandRow :=
  ⟨id, pubkey, cmd.word world, trim cmd.description, now⟩

/-- One turn of the loop. -/
def storeCommand (world : SlashWorld) (now : Int) (id : ℕ → String) (pubkey : String)
    (cmd : CommandInput × ℕ) : Prog BotTables ApiError Unit :=
  if cmd.1.word world = "" then pure ()
  else .attempt (insertSlashCommand (cmd.1.row world now pubkey (id cmd.2)))

/-- `bot_set_commands`. -/
def botSetCommands (world : SlashWorld) (now : Int) (id : ℕ → String) (bearer : Option String)
    (commands : List CommandInput) : Prog BotTables ApiError StatusCode := do
  let bot ← authenticateBot world bearer
  -- Replace atomically: delete all, insert new.
  .exec (deleteSlashCommandsOf bot.publicKey)
  .each commands.zipIdx (storeCommand world now id bot.publicKey)
  pure .ok

/-! ## What is to hold -/

/-- A request to replace the commands of a bot, and the store that it meets. -/
inductive CommandsCall where
  | update (user : String) (commands : List BotCommandDef) (s : AppState)
  | accept (lib : Crates) (now : Int) (req : AcceptInviteRequest) (s : AppState)
  | set (world : SlashWorld) (now : Int) (bearer : Option String) (commands : List CommandInput)
      (t : BotTables) (ids : NewIds t)

/-- The commands, profiles, invites and approvals of the bots are as they were. -/
structure SameBotRows (s t : AppState) : Prop where
  commands : t.db.botCommands.SameRows s.db.botCommands
  profiles : t.db.botProfiles.SameRows s.db.botProfiles
  invites : t.db.botInvites.SameRows s.db.botInvites
  users : t.db.users.SameRows s.db.users

/-- The commands of the bot are those submitted. -/
def CommandsAre (pubkey : String) (commands : List BotCommandDef) (t : AppState) : Prop :=
  t.db.botCommands.rows.filter (·.pubkey = pubkey) = commands.map (·.row pubkey)

/-- The words and descriptions submitted, without the empty words. -/
def submittedWords (world : SlashWorld) (commands : List CommandInput) :
    List (String × String) :=
  commands.filterMap fun cmd =>
    if cmd.word world = "" then none else some (cmd.word world, trim cmd.description)

/-- The commands of the service bot whose token it is are those submitted. -/
def SlashCommandsAre (world : SlashWorld) (bearer : Option String) (commands : List CommandInput)
    (t : BotTables) : Prop :=
  ∀ raw ∈ bearer, ∀ bot ∈ t.bots.rows.find? (·.tokenHash = world.hashToken raw),
    (t.botSlashCommands.rows.filter (·.botPubkey = bot.publicKey)).map
      (fun row => (row.command, row.description)) = submittedWords world commands

/-- An error leaves everything as it was, and after a success the commands are those submitted. -/
def CommandsCall.Right : CommandsCall → Prop
  | .update user commands s =>
      (extUpdateBotCommands user commands).AllOrNothing (SameBotRows s)
        (fun _ t => CommandsAre user commands t) s
  | .accept lib now req s =>
      (extAcceptInvite lib now req).AllOrNothing (SameBotRows s)
        (fun _ t => ∀ commands ∈ req.botMeta.commands, CommandsAre req.pubkey commands t) s
  | .set world now bearer commands t ids =>
      (botSetCommands world now ids.id bearer commands).AllOrNothing
        (fun u => u.botSlashCommands.SameRows t.botSlashCommands)
        (fun _ u => SlashCommandsAre world bearer commands u) t

/-- No name is submitted twice, or the request is refused before anything is written, or a bot
submits to `ext_update_bot_commands` what it has, up to the first name that comes twice. -/
def CommandsCall.Spared : CommandsCall → Prop
  | .update user commands s =>
      (s.db.users.find? user).map (·.isBot) = some true →
        (commands.map (·.name)).Nodup ∨
          ∀ row : BotCommandRow, row.pubkey = user →
            (row ∈ s.db.botCommands.rows ↔ row ∈ (beforeRepeat [] commands).map (·.row user))
  | .accept lib now req s =>
      checkBotInvite lib.ed25519 now req (s.db.botInvite req.pubkey) = .ok () →
        req.botMeta.NamesDistinct
  | .set world _ bearer commands t _ =>
      (∃ raw ∈ bearer, (t.bots.rows.find? (·.tokenHash = world.hashToken raw)).isSome = true) →
        ((submittedWords world commands).map (·.1)).Nodup

/-! ## The commands of a profile -/

section Profile

variable {s : AppState} {pubkey : String} {commands : List BotCommandDef}

/-- All commands are deleted, and those submitted stored up to the first name that comes twice. -/
theorem run_replaceCommands (pubkey : String) (commands : List BotCommandDef) (s : AppState) :
    ∃ botCommands result,
      (do
        write (deleteBotCommands pubkey)
        .each commands fun cmd => execute (insertBotCommand (cmd.row pubkey)) :
          Handler Unit).run s =
        (result, s.withDb (s.db.withBotCommands botCommands)) ∧
      (result.isOk = true ↔ (commands.map (·.name)).Nodup) ∧
      botCommands.rows = (s.db.botCommands.keep (·.pubkey ≠ pubkey)).rows ++
        (beforeRepeat [] commands).map (·.row pubkey) := by
  have hseen : ∀ name, (deleteBotCommands pubkey s.db).botCommands.has (pubkey, name) = true ↔
      name ∈ ([] : List String) := by
    intro name
    rw [iff_false_right List.not_mem_nil, Bool.not_eq_true, Table.has_eq_false_iff]
    intro row hrow hkey
    exact of_decide_eq_true (List.mem_filter.mp hrow).2 (Prod.mk.inj hkey).1
  obtain ⟨botCommands, result, hrun, hok, hrows⟩ :=
    run_insertCommands pubkey commands [] (s.withDb (deleteBotCommands pubkey s.db)) hseen
  rw [beforeRepeat_eq_self_iff, and_iff_right fun _ _ => List.not_mem_nil] at hok
  exact ⟨botCommands, result, hrun, hok, hrows⟩

theorem commandsAre_of_rows {t : AppState} {kept : Table BotCommandRow BotCommandRow.key}
    (hrows : t.db.botCommands.rows = (kept.keep (·.pubkey ≠ pubkey)).rows ++
      commands.map (·.row pubkey)) : CommandsAre pubkey commands t := by
  have hown : ∀ row ∈ commands.map (·.row pubkey), decide (row.pubkey = pubkey) = true := by
    intro row hrow
    obtain ⟨cmd, -, rfl⟩ := List.mem_map.mp hrow
    exact decide_eq_true rfl
  have hkept : (kept.keep (·.pubkey ≠ pubkey)).rows.filter (·.pubkey = pubkey) = [] := by
    rw [List.filter_eq_nil_iff]
    intro row hrow hkey
    exact of_decide_eq_true (List.mem_filter.mp hrow).2 (of_decide_eq_true hkey)
  rw [CommandsAre, hrows, List.filter_append, hkept, List.nil_append, List.filter_eq_self.mpr hown]

theorem SameBotRows.refl (s : AppState) : SameBotRows s s :=
  ⟨.refl _, .refl _, .refl _, .refl _⟩

/-- Past the check, deleting and storing is all or nothing exactly if no name comes twice, or the
bot has what is stored up to the first that does. -/
theorem replaceCommands_whole_iff (pubkey : String) (commands : List BotCommandDef)
    (s : AppState) :
    (do
        write (deleteBotCommands pubkey)
        .each commands fun cmd => execute (insertBotCommand (cmd.row pubkey)) :
        Handler Unit).AllOrNothing (SameBotRows s) (fun _ t => CommandsAre pubkey commands t) s ↔
      (commands.map (·.name)).Nodup ∨ ∀ row : BotCommandRow, row.pubkey = pubkey →
        (row ∈ s.db.botCommands.rows ↔ row ∈ (beforeRepeat [] commands).map (·.row pubkey)) := by
  obtain ⟨botCommands, result, hrun, hok, hrows⟩ := run_replaceCommands pubkey commands s
  cases result with
  | ok _ =>
      have hnodup := hok.mp rfl
      rw [(beforeRepeat_eq_self_iff [] commands).mpr ⟨fun _ _ => List.not_mem_nil, hnodup⟩] at hrows
      rw [Prog.allOrNothing_iff_of_ok hrun]
      exact iff_of_true (commandsAre_of_rows hrows) (.inl hnodup)
  | error e =>
      have hrepeated : ¬ (commands.map (·.name)).Nodup := fun hnodup => by cases hok.mpr hnodup
      rw [Prog.allOrNothing_iff_of_error hrun, or_iff_right hrepeated,
        ← sameRows_replaceCommands hrows]
      exact ⟨fun h => h.commands, fun h => ⟨h, .refl _, .refl _, .refl _⟩⟩

theorem update_right_iff (user : String) (commands : List BotCommandDef) (s : AppState) :
    (CommandsCall.update user commands s).Right ↔ (CommandsCall.update user commands s).Spared := by
  rw [CommandsCall.Right, extUpdateBotCommands, Prog.allOrNothing_bind_of_ok (run_fetch _ s),
    Prog.allOrNothing_ensure_bind (SameBotRows.refl s), ← Prog.bind_assoc]
  exact imp_congr_right fun _ =>
    Prog.allOrNothing_map.trans (replaceCommands_whole_iff user commands s)

/-- Who is found to be invited has an invite. -/
theorem mem_botInvites_of_check {E : Ed25519} {now : Int} {req : AcceptInviteRequest}
    (h : checkBotInvite E now req (s.db.botInvite req.pubkey) = .ok ()) :
    ∃ row ∈ s.db.botInvites.rows, row.publicKey = req.pubkey := by
  cases hfound : s.db.botInvite req.pubkey with
  | none =>
      rw [hfound] at h
      cases h
  | some invite =>
      rw [Db.botInvite, Option.map_eq_some_iff] at hfound
      obtain ⟨user, huser, hinvite⟩ := hfound
      cases hrow : s.db.botInvites.find? req.pubkey with
      | none =>
          rw [Db.botInvite, huser, Option.map_some, hrow] at h
          cases h
      | some row => exact ⟨row, Table.find?_eq_some_iff.mp hrow⟩

/-- The invite is used up before the commands are stored, so that no error after that leaves
everything as it was. -/
theorem accept_right_iff (lib : Crates) (now : Int) (req : AcceptInviteRequest) (s : AppState) :
    (CommandsCall.accept lib now req s).Right ↔ (CommandsCall.accept lib now req s).Spared := by
  rw [CommandsCall.Right, extAcceptInvite, Prog.allOrNothing_bind_of_ok (run_fetch _ s),
    Prog.allOrNothing_ofExcept_bind (SameBotRows.refl s)]
  refine imp_congr_right fun hcheck => ?_
  rw [Prog.allOrNothing_bind_of_ok (run_write _ s), Prog.allOrNothing_bind_of_ok (run_write _ _),
    BotMeta.NamesDistinct, Prog.allOrNothing_map]
  cases hcommands : req.botMeta.commands with
  | none =>
      refine iff_of_true ?_ List.nodup_nil
      rw [Prog.whenSome, Prog.allOrNothing_iff_of_ok (Prog.run_ret _ _)]
      intro commands h
      cases h
  | some commands =>
      rw [Prog.whenSome, Option.getD_some]
      obtain ⟨botCommands, result, hrun, hok, hrows⟩ := run_replaceCommands req.pubkey commands
        ((s.withDb (approveBot req.pubkey s.db)).withDb (upsertBotProfile
          (req.botMeta.profile lib req.pubkey now) (s.withDb (approveBot req.pubkey s.db)).db))
      cases result with
      | ok _ =>
          have hnodup := hok.mp rfl
          rw [(beforeRepeat_eq_self_iff [] commands).mpr
            ⟨fun _ _ => List.not_mem_nil, hnodup⟩] at hrows
          refine iff_of_true ((Prog.allOrNothing_iff_of_ok hrun).mpr fun other hother => ?_) hnodup
          rw [← Option.mem_some.mp hother]
          exact commandsAre_of_rows hrows
      | error e =>
          refine iff_of_false (fun hwhole => ?_) fun hnodup => by cases hok.mpr hnodup
          rw [Prog.allOrNothing_iff_of_error hrun] at hwhole
          obtain ⟨row, hrow, hkey⟩ := mem_botInvites_of_check hcheck
          have hleft := (hwhole.invites row).mpr hrow
          exact of_decide_eq_true (List.mem_filter.mp hleft).2 hkey

end Profile

/-! ## The commands of a service bot -/

section Service

variable {world : SlashWorld} {now : Int} {id : ℕ → String} {pubkey : String} {t u : BotTables}

/-- What is known of a service bot's tables before the rest of the commands is stored. -/
structure ReadyToStore (id : ℕ → String) (pubkey : String) (rest : List (CommandInput × ℕ))
    (t : BotTables) : Prop where
  bot : t.bots.has pubkey = true
  distinct : (rest.map (·.2)).Nodup
  free : ∀ c ∈ rest, t.botSlashCommands.has (id c.2) = false

/-- The word of a command as its key, and its row, if the word is not empty. -/
def wordKey? (world : SlashWorld) (c : CommandInput × ℕ) : Option String :=
  if c.1.word world = "" then none else some (c.1.word world)

def wordRow? (world : SlashWorld) (now : Int) (id : ℕ → String) (pubkey : String)
    (c : CommandInput × ℕ) : Option BotSlashCommandRow :=
  (wordKey? world c).map fun _ => c.1.row world now pubkey (id c.2)

/-- Only the commands of service bots differ. -/
def OnlyCommands (t u : BotTables) : Prop :=
  u = { t with botSlashCommands := u.botSlashCommands }

theorem insertSlashCommand_of_taken {row : BotSlashCommandRow}
    (hid : t.botSlashCommands.has row.id = false)
    (htaken : t.hasCommand row.botPubkey row.command = true) :
    ∃ e, insertSlashCommand row t = .error e := by
  obtain ⟨table, hinsert, -⟩ : ∃ table, t.botSlashCommands.insert? row = some table ∧ _ :=
    Table.insert?_of_free hid
  rw [insertSlashCommand, hinsert]
  exact ⟨_, if_pos htaken⟩

theorem insertSlashCommand_of_free {row : BotSlashCommandRow}
    (hid : t.botSlashCommands.has row.id = false)
    (hfree : t.hasCommand row.botPubkey row.command = false)
    (hbot : t.bots.has row.botPubkey = true) :
    ∃ table, table.rows = t.botSlashCommands.rows ++ [row] ∧
      insertSlashCommand row t = .ok { t with botSlashCommands := table } := by
  obtain ⟨table, hinsert, hrows⟩ : ∃ table, t.botSlashCommands.insert? row = some table ∧ _ :=
    Table.insert?_of_free hid
  rw [insertSlashCommand, hinsert]
  dsimp only
  rw [if_neg (by simp [hfree]), if_pos hbot]
  exact ⟨table, hrows, rfl⟩

theorem inserts_storeCommand (world : SlashWorld) (now : Int) (pubkey : String)
    (hinj : Function.Injective id) :
    Inserts (E := ApiError) (wordKey? world) (wordRow? world now id pubkey)
      (fun t => t.hasCommand pubkey) (·.botSlashCommands.rows) OnlyCommands
      (ReadyToStore id pubkey) (storeCommand world now id pubkey) where
  refl _ := rfl
  trans s t u hst htu := by
    rw [OnlyCommands] at *
    rw [htu, hst]
  refused c rest s hready htaken := by
    by_cases hempty : c.1.word world = ""
    · rw [wordKey?, if_pos hempty] at htaken
      cases htaken
    · rw [wordKey?, if_neg hempty, Option.any_some] at htaken
      obtain ⟨e, he⟩ : ∃ e, insertSlashCommand (c.1.row world now pubkey (id c.2)) s = .error e :=
        insertSlashCommand_of_taken (hready.free c List.mem_cons_self) htaken
      rw [storeCommand, if_neg hempty, Prog.run_attempt, he]
      exact ⟨e, rfl⟩
  inserted c rest s hready hfree := by
    have hdistinct := List.nodup_cons.mp hready.distinct
    by_cases hempty : c.1.word world = ""
    · rw [storeCommand, if_pos hempty, wordRow?, wordKey?, if_pos hempty]
      refine ⟨s, rfl, rfl, ⟨hready.bot, hdistinct.2, fun d hd =>
        hready.free d (List.mem_cons_of_mem _ hd)⟩, ?_, ?_⟩
      · simp
      · simp
    · rw [wordKey?, if_neg hempty, Option.any_some] at hfree
      obtain ⟨table, hrows, hok⟩ : ∃ table, table.rows = s.botSlashCommands.rows ++
          [c.1.row world now pubkey (id c.2)] ∧
          insertSlashCommand (c.1.row world now pubkey (id c.2)) s =
            .ok { s with botSlashCommands := table } :=
        insertSlashCommand_of_free (hready.free c List.mem_cons_self) hfree hready.bot
      rw [storeCommand, if_neg hempty, Prog.run_attempt, hok, wordRow?, wordKey?, if_neg hempty]
      refine ⟨_, rfl, rfl, ⟨hready.bot, hdistinct.2, ?_⟩, hrows, ?_⟩
      · -- The identifiers that are left are other ones.
        intro d hd
        rw [Bool.eq_false_iff, Ne, Table.has_of_append hrows,
          hready.free d (List.mem_cons_of_mem _ hd)]
        rintro (h | h)
        · cases h
        · have hsame : c.2 = d.2 := hinj h
          exact hdistinct.1 (List.mem_map.mpr ⟨d, hd, hsame.symm⟩)
      · funext word
        rw [BotTables.hasCommand, hrows, List.any_append]
        simp [BotTables.hasCommand, CommandInput.row, eq_comm]

theorem filterMap_zipIdx {A B : Type} (f : A → Option B) (as : List A) :
    as.zipIdx.filterMap (fun c => f c.1) = as.filterMap f := by
  have hmap : as.zipIdx.map (·.1) = as := List.zipIdx_map_fst 0 as
  conv_rhs => rw [← hmap, List.filterMap_map]
  rfl

theorem keys_submitted (world : SlashWorld) (commands : List CommandInput) :
    commands.zipIdx.filterMap (wordKey? world) = (submittedWords world commands).map (·.1) := by
  rw [submittedWords, List.map_filterMap]
  refine (List.filterMap_congr fun c _ => ?_).trans (filterMap_zipIdx _ commands)
  rw [wordKey?]
  split_ifs <;> rfl

theorem rows_submitted (world : SlashWorld) (now : Int) (id : ℕ → String) (pubkey : String)
    (commands : List CommandInput) :
    (commands.zipIdx.filterMap (wordRow? world now id pubkey)).map
      (fun row => (row.command, row.description)) = submittedWords world commands := by
  rw [submittedWords, List.map_filterMap]
  refine (List.filterMap_congr fun c _ => ?_).trans (filterMap_zipIdx _ commands)
  rw [wordRow?, wordKey?]
  split_ifs <;> rfl

theorem botPubkey_of_mem_wordRows {cs : List (CommandInput × ℕ)} {row : BotSlashCommandRow}
    (h : row ∈ cs.filterMap (wordRow? world now id pubkey)) : row.botPubkey = pubkey := by
  obtain ⟨c, -, hrow⟩ := List.mem_filterMap.mp h
  obtain ⟨word, -, rfl⟩ := Option.map_eq_some_iff.mp hrow
  rfl

/-- The rows that are left of a bot whose commands are deleted. -/
theorem filter_deleteSlashCommandsOf (pubkey : String) (t : BotTables) :
    (deleteSlashCommandsOf pubkey t).botSlashCommands.rows.filter (·.botPubkey = pubkey) = [] := by
  rw [List.filter_eq_nil_iff]
  intro row hrow hkey
  exact of_decide_eq_true (List.mem_filter.mp hrow).2 (of_decide_eq_true hkey)

theorem hasCommand_deleteSlashCommandsOf (pubkey : String) (t : BotTables) (word : String) :
    (deleteSlashCommandsOf pubkey t).hasCommand pubkey word = false := by
  rw [BotTables.hasCommand, List.any_eq_false]
  intro row hrow hkey
  exact of_decide_eq_true (List.mem_filter.mp hrow).2 (of_decide_eq_true hkey).1

theorem readyToStore (ids : NewIds t) (hbot : t.bots.has pubkey = true)
    (commands : List CommandInput) :
    ReadyToStore ids.id pubkey commands.zipIdx (deleteSlashCommandsOf pubkey t) where
  bot := hbot
  distinct := by
    rw [List.zipIdx_map_snd]
    exact List.nodup_range' _
  free c _ := by
    have hfree := Table.has_eq_false_iff.mp (ids.free c.2)
    exact Table.has_eq_false_iff.mpr fun row hrow => hfree row (List.mem_filter.mp hrow).1

/-- The commands that are stored have identifiers of their own, so that no error after the first
of them leaves everything as it was. -/
theorem storeCommands_whole_iff (world : SlashWorld) (now : Int) (commands : List CommandInput)
    {raw : String} {bot : BotRow} (ids : NewIds t)
    (hfound : t.bots.rows.find? (·.tokenHash = world.hashToken raw) = some bot) :
    (Prog.each commands.zipIdx (storeCommand world now ids.id bot.publicKey)).AllOrNothing
        (fun u => u.botSlashCommands.SameRows t.botSlashCommands)
        (fun _ u => SlashCommandsAre world (some raw) commands u)
        (deleteSlashCommandsOf bot.publicKey t) ↔
      ((submittedWords world commands).map (·.1)).Nodup := by
  have hbot : t.bots.has bot.publicKey = true :=
    Table.has_iff.mpr ⟨bot, List.mem_of_find?_eq_some hfound, rfl⟩
  obtain ⟨result, u, hrun, hframe, hrows, hok⟩ :=
    (inserts_storeCommand world now bot.publicKey ids.injective).run
      (readyToStore ids hbot commands)
  have hfree := hasCommand_deleteSlashCommandsOf bot.publicKey t
  have hall : untilTaken (wordKey? world) ((deleteSlashCommandsOf bot.publicKey t).hasCommand
      bot.publicKey) commands.zipIdx = commands.zipIdx ↔
        ((submittedWords world commands).map (·.1)).Nodup := by
    rw [untilTaken_eq_self_iff, keys_submitted, and_iff_left fun k _ => hfree k]
  rw [← hall]
  cases result with
  | ok _ =>
      have hstored := hok.mp rfl
      rw [hstored] at hrows
      refine iff_of_true ((Prog.allOrNothing_iff_of_ok hrun).mpr ?_) hstored
      intro other hother found hfound'
      have hbots : u.bots = t.bots := by
        rw [OnlyCommands] at hframe
        rw [hframe]
        rfl
      have hown : ∀ row ∈ commands.zipIdx.filterMap (wordRow? world now ids.id bot.publicKey),
          decide (row.botPubkey = bot.publicKey) = true :=
        fun row hrow => decide_eq_true (botPubkey_of_mem_wordRows hrow)
      cases hother
      rw [hbots, hfound] at hfound'
      cases hfound'
      rw [hrows, List.filter_append, filter_deleteSlashCommandsOf, List.nil_append,
        List.filter_eq_self.mpr hown, rows_submitted]
  | error e =>
      have hrefused : ¬ _ := fun hstored => by cases hok.mpr hstored
      refine iff_of_false (fun hwhole => ?_) hrefused
      rw [Prog.allOrNothing_iff_of_error hrun] at hwhole
      obtain ⟨c, hc, hkey⟩ := exists_key_of_untilTaken_ne hfree hrefused
      have hrow : wordRow? world now ids.id bot.publicKey c =
          some (c.1.row world now bot.publicKey (ids.id c.2)) := by
        obtain ⟨word, hword⟩ := Option.isSome_iff_exists.mp hkey
        rw [wordRow?, hword, Option.map_some]
      have hstored : c.1.row world now bot.publicKey (ids.id c.2) ∈ u.botSlashCommands.rows := by
        rw [hrows]
        exact List.mem_append_right _ (List.mem_filterMap.mpr ⟨c, hc, hrow⟩)
      exact Table.has_eq_false_iff.mp (ids.free c.2) _ ((hwhole _).mp hstored) rfl

theorem set_right_iff (world : SlashWorld) (now : Int) (bearer : Option String)
    (commands : List CommandInput) (t : BotTables) (ids : NewIds t) :
    (CommandsCall.set world now bearer commands t ids).Right ↔
      (CommandsCall.set world now bearer commands t ids).Spared := by
  rw [CommandsCall.Right, CommandsCall.Spared, botSetCommands]
  cases bearer with
  | none =>
      refine iff_of_true ?_ fun ⟨_, hraw, _⟩ => by cases hraw
      rw [authenticateBot, Prog.allOrNothing_bind_of_error (Prog.run_fail _ t)]
      exact .refl _
  | some raw =>
      cases hfound : t.bots.rows.find? (·.tokenHash = world.hashToken raw) with
      | none =>
          have hauth : (authenticateBot world (some raw)).run t =
              (.error ⟨.unauthorized, "Invalid bot token"⟩, t) := by
            rw [authenticateBot, Prog.run_bind_of_ok (Prog.run_query _ t), hfound]
            rfl
          rw [Prog.allOrNothing_bind_of_error hauth]
          refine iff_of_true (.refl _) fun ⟨other, hother, hsome⟩ => ?_
          rw [← Option.mem_some.mp hother, hfound] at hsome
          cases hsome
      | some bot =>
          have hauth : (authenticateBot world (some raw)).run t = (.ok bot, t) := by
            rw [authenticateBot, Prog.run_bind_of_ok (Prog.run_query _ t), hfound]
            rfl
          have hspared : (∃ other ∈ some raw, (t.bots.rows.find?
              (·.tokenHash = world.hashToken other)).isSome = true) :=
              ⟨raw, rfl, by rw [hfound]; rfl⟩
          rw [Prog.allOrNothing_bind_of_ok hauth, imp_iff_right hspared,
            Prog.allOrNothing_bind_of_ok (Prog.run_exec _ t), Prog.allOrNothing_map]
          exact storeCommands_whole_iff world now commands ids hfound

end Service

/-- The commands of a bot are replaced as a whole exactly if the request is spared. -/
theorem commandsRight_iff (call : CommandsCall) : call.Right ↔ call.Spared := by
  cases call with
  | update user commands s => exact update_right_iff user commands s
  | accept lib now req s => exact accept_right_iff lib now req s
  | set world now bearer commands t ids => exact set_right_iff world now bearer commands t ids

/-! ## A name that comes twice -/

/-- A hub with a bot that has one command. -/
def rollingHub : AppState :=
  { db :=
      { users := ⟨[{ publicKey := "bot", firstSeenAt := 1, lastSeenAt := 1, isBot := true }],
          by decide⟩
        botCommands := ⟨[⟨"bot", "roll", "Roll dice", none, "channel", false, 3⟩], by decide⟩ } }

def flipTwice : List BotCommandDef := [⟨"flip", "Flip", none, none, none, none⟩,
  ⟨"flip", "Flip again", none, none, none, none⟩]

/-- The old command is gone, and one of the new ones is there. -/
theorem repeated_not_commandsRight :
    ¬ (CommandsCall.update "bot" flipTwice rollingHub).Right := by
  have hrun : ((extUpdateBotCommands "bot" flipTwice).run rollingHub).1 =
        .error (dbError (.primaryKey "bot_commands.pubkey, bot_commands.name")) ∧
      ((extUpdateBotCommands "bot" flipTwice).run rollingHub).2.db.botCommands.rows =
        [⟨"bot", "flip", "Flip", none, "channel", false, 3⟩] := by
    decide +kernel
  intro hright
  rcases hanswer : (extUpdateBotCommands "bot" flipTwice).run rollingHub with ⟨e | a, t⟩
  · have hlost := ((hright.failed e t hanswer).commands
      ⟨"bot", "roll", "Roll dice", none, "channel", false, 3⟩).mpr (List.mem_singleton_self _)
    rw [hanswer] at hrun
    rw [hrun.2] at hlost
    revert hlost
    decide
  · rw [hanswer] at hrun
    cases hrun.1

end Voxply.Hub
