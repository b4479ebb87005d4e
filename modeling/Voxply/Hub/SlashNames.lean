/-
# Invoking a command by its name

Bots may register commands under any names.  What invokes a command is the first word after the
slash, in lower case; so a command is out of reach whose name has a blank in it, is empty, or is
not its own lower case.
-/

import Voxply.Hub.CommandReplacement
import Voxply.Hub.BotDispatch

namespace Voxply.Hub

open Voxply.Math

/-! ## What is to hold -/

/-- Whoever handles the command is asked for it, with these arguments: in every state of the hub
in which an active bot with a webhook has the command, and the caller may use it. -/
def Invokes (toLowercase : String → String) (content : String) (text : SlashText) : Prop :=
  ∀ (world : BotWorld) (env : SlashEnv) (channelId invoker : String) (s : AppState)
    (command : MatchedCommand) (webhookUrl : String), world.toLowercase = toLowercase →
    s.db.matchedCommand text.command channelId = some command →
    (command.privileged = true → (s.db.userPermissions invoker).has manageMessages = true) →
    command.webhookUrl = some webhookUrl → webhookUrl ≠ "" →
    (dispatchSlash world env channelId invoker content).run s =
      (command.dispatch world env channelId invoker webhookUrl text).run s

/-- Some text invokes the command, and after the slash, the name and a blank, whatever follows
reaches the bot as it is. -/
structure Invocable (toLowercase : String → String) (name : String) : Prop where
  reachable : ∃ content args, Invokes toLowercase content ⟨name, args⟩
  selects : ∀ args, Invokes toLowercase ("/" ++ name ++ " " ++ args) ⟨name, args⟩

/-- Not empty, without a blank, and its own lower case. -/
structure PlainName (toLowercase : String → String) (name : String) : Prop where
  nonempty : name ≠ ""
  unspaced : ' ' ∉ name.toList
  lower : toLowercase name = name

/-! ## Names are stored as they are -/

/-- A bot may register a command under any name. -/
theorem run_extUpdateBotCommands_one {bot : String} {s : AppState}
    (hbot : (s.db.users.find? bot).map (·.isBot) = some true) (cmd : BotCommandDef) :
    ∃ t, (extUpdateBotCommands bot [cmd]).run s = (.ok .ok, t) ∧
      cmd.row bot ∈ t.db.botCommands.rows := by
  obtain ⟨botCommands, result, hrun, hok, hrows⟩ := run_replaceCommands bot [cmd] s
  have hdone : result.isOk = true := hok.mpr (List.nodup_singleton _)
  cases result with
  | error e => cases hdone
  | ok _ =>
      refine ⟨s.withDb (s.db.withBotCommands botCommands), ?_, ?_⟩
      · rw [extUpdateBotCommands, Prog.run_bind_of_ok (run_fetch _ s),
          Prog.run_bind_of_ok (Prog.run_ensure_of_pos hbot _ s), ← Prog.bind_assoc,
          Prog.run_bind_of_ok hrun]
        rfl
      · show _ ∈ botCommands.rows
        rw [hrows]
        exact List.mem_append_right _ (List.mem_singleton_self _)

/-! ## What a text invokes -/

section Texts

variable {toLowercase : String → String} {content name : String} {text : SlashText}

/-- A text that is parsed into a command invokes it. -/
theorem invokes_of_parse (hslash : content.toList.head? = some '/')
    (hparse : parseSlash toLowercase content = text) (hcommand : text.command ≠ "") :
    Invokes toLowercase content text := by
  intro world env channelId invoker s command webhookUrl hworld hmatched hallowed hurl hne
  subst hworld
  rw [dispatchSlash, if_neg (not_not_intro hslash), hparse]
  dsimp only
  rw [if_neg hcommand, Prog.run_bind_of_ok (run_fetch _ s), hmatched]
  dsimp only
  have hasked : Prog.run (if webhookUrl = "" then pure none
      else command.dispatch world env channelId invoker webhookUrl text) s =
        (command.dispatch world env channelId invoker webhookUrl text).run s := by
    rw [if_neg hne]
  by_cases hprivileged : command.privileged = true
  · rw [if_pos hprivileged, Prog.run_bind_of_ok (run_userPermissions invoker s),
      hallowed hprivileged, Prog.run_bind_of_ok (Prog.run_pure true s), if_neg Bool.noConfusion,
      hurl]
    exact hasked
  · rw [if_neg hprivileged, Prog.run_bind_of_ok (Prog.run_pure true s), if_neg Bool.noConfusion,
      hurl]
    exact hasked

/-- A hub with one bot, which has one command. -/
def soloHub (name : String) : AppState :=
  { db :=
      { users := .single { publicKey := "bot", firstSeenAt := 1, lastSeenAt := 1, isBot := true }
        botProfiles := .single ⟨"bot", "Bot", none, none, some "https://bot", none, "[]", 1⟩
        botCommands := ⟨[⟨"bot", name, "", none, "channel", false, 3⟩], List.nodup_singleton _⟩ } }

theorem matchedCommand_soloHub (name command channelId : String) :
    (soloHub name).db.matchedCommand command channelId =
      if name = command then some ⟨"bot", "Bot", some "https://bot", false⟩ else none := by
  by_cases hname : name = command
  · subst hname
    rw [if_pos rfl]
    simp only [Db.matchedCommand, soloHub, Table.find?, Db.inScope, guard]
    simp
    rw [if_pos (.inl (fun _ h => by cases h))]
    rfl
  · rw [if_neg hname]
    simp [Db.matchedCommand, soloHub, hname, Table.find?, Db.inScope, guard]

/-- Bots that answer everything but one invocation. -/
def deafTo (toLowercase : String → String) (text : SlashText) : BotWorld where
  slash _ invocation :=
    if invocation.command = text.command ∧ invocation.argsRaw = text.argsRaw then none else some {}
  component _ _ := none
  toLowercase := toLowercase

/-- The bot's failure to answer is noticed, and nothing else is. -/
theorem fst_run_dispatch_deafTo (env : SlashEnv) (channelId invoker webhookUrl : String)
    (command : MatchedCommand) (parsed : SlashText) (s : AppState) :
    ((command.dispatch (deafTo toLowercase text) env channelId invoker webhookUrl parsed).run s).1 =
      if parsed.command = text.command ∧ parsed.argsRaw = text.argsRaw then
        .ok (some ("Bot @" ++ command.botName ++ " failed to respond."))
      else .ok none := by
  rw [MatchedCommand.dispatch, Prog.run_bind_of_ok (run_fetch _ _),
    Prog.run_bind_of_ok (run_fetch _ _), deafTo]
  by_cases hdeaf : parsed.command = text.command ∧ parsed.argsRaw = text.argsRaw
  · rw [if_pos hdeaf]
    dsimp only
    rw [if_pos hdeaf]
    rfl
  · rw [if_neg hdeaf]
    dsimp only
    rw [if_neg hdeaf]
    rfl

/-- A text invokes the command exactly that it is parsed into. -/
theorem invokes_iff :
    Invokes toLowercase content text ↔
      content.toList.head? = some '/' ∧ parseSlash toLowercase content = text ∧
        text.command ≠ "" := by
  constructor
  · intro h
    -- The bot does not answer this invocation, which is noticed.
    have hrun := congrArg Prod.fst (h (deafTo toLowercase text) ⟨"hint", "reply", 1⟩ "c" "user"
      (soloHub text.command) ⟨"bot", "Bot", some "https://bot", false⟩ "https://bot" rfl
      ((matchedCommand_soloHub text.command text.command "c").trans (if_pos rfl))
      (fun hprivileged => by cases hprivileged) rfl (by decide))
    rw [fst_run_dispatch_deafTo, if_pos ⟨rfl, rfl⟩] at hrun
    by_cases hslash : content.toList.head? = some '/'
    · by_cases hcommand : (parseSlash toLowercase content).command = ""
      · rw [dispatchSlash, if_neg (not_not_intro hslash), deafTo, if_pos hcommand] at hrun
        cases hrun
      · by_cases hname : text.command = (parseSlash toLowercase content).command
        · rw [invokes_of_parse hslash rfl hcommand (deafTo toLowercase text)
            ⟨"hint", "reply", 1⟩ "c" "user" (soloHub text.command)
            ⟨"bot", "Bot", some "https://bot", false⟩ "https://bot" rfl
            ((matchedCommand_soloHub text.command _ "c").trans (if_pos hname))
            (fun hprivileged => by cases hprivileged) rfl (by decide),
            fst_run_dispatch_deafTo] at hrun
          by_cases hargs : (parseSlash toLowercase content).argsRaw = text.argsRaw
          · have hparse : parseSlash toLowercase content = text := by
              rw [show parseSlash toLowercase content =
                ⟨(parseSlash toLowercase content).command,
                  (parseSlash toLowercase content).argsRaw⟩ from rfl, ← hname, hargs]
            exact ⟨hslash, hparse, hname ▸ hcommand⟩
          · rw [if_neg (fun hdeaf => hargs hdeaf.2)] at hrun
            cases hrun
        · have hother : (soloHub text.command).db.matchedCommand
              (parseSlash (deafTo toLowercase text).toLowercase content).command "c" = none :=
            (matchedCommand_soloHub _ _ _).trans (if_neg hname)
          have hne : (parseSlash (deafTo toLowercase text).toLowercase content).command ≠ "" :=
            hcommand
          rw [dispatchSlash, if_neg (not_not_intro hslash), if_neg hne,
            Prog.run_bind_of_ok (run_fetch _ _), hother] at hrun
          cases hrun
    · rw [dispatchSlash, if_pos hslash] at hrun
      cases hrun
  · intro ⟨hslash, hparse, hcommand⟩
    exact invokes_of_parse hslash hparse hcommand

/-- After the slash. -/
theorem drop_toList_slash (name args : String) :
    ("/" ++ name ++ " " ++ args).toList.drop 1 = name.toList ++ ' ' :: args.toList := by
  simp only [String.toList_append, List.append_assoc]
  rfl

/-- The parts of a text that is put together as described. -/
theorem parseSlash_of_unspaced (hname : ' ' ∉ name.toList) (args : String) :
    parseSlash toLowercase ("/" ++ name ++ " " ++ args) = ⟨toLowercase name, args⟩ := by
  have hall : ∀ c ∈ name.toList, decide (c ≠ ' ') = true := by
    intro c hc
    exact decide_eq_true (fun heq => hname (heq ▸ hc))
  rw [parseSlash, drop_toList_slash]
  rw [List.takeWhile_append_of_pos hall, List.dropWhile_append_of_pos hall,
    List.takeWhile_cons_of_neg (by decide), List.dropWhile_cons_of_neg (by decide),
    List.append_nil, List.drop_one, List.tail_cons, String.ofList_toList, String.ofList_toList]

/-- With a blank in the name the arguments begin too early. -/
theorem argsRaw_of_spaced (hname : ' ' ∈ name.toList) :
    (parseSlash toLowercase ("/" ++ name ++ " " ++ "")).argsRaw ≠ "" := by
  obtain ⟨before, after, hsplit, hbefore⟩ := List.eq_append_cons_of_mem hname
  have hall : ∀ c ∈ before, decide (c ≠ ' ') = true := by
    intro c hc
    exact decide_eq_true (fun heq => hbefore (heq ▸ hc))
  rw [parseSlash, drop_toList_slash, hsplit, List.append_assoc]
  rw [List.dropWhile_append_of_pos hall, List.cons_append,
    List.dropWhile_cons_of_neg (by decide), List.drop_one, List.tail_cons]
  intro hempty
  have hlist := congrArg String.toList hempty
  rw [String.toList_ofList] at hlist
  exact List.append_ne_nil_of_right_ne_nil _ (List.cons_ne_nil _ _) hlist

/-- A command can be invoked exactly if its name is plain. -/
theorem invocable_iff (toLowercase : String → String) (name : String) :
    Invocable toLowercase name ↔ PlainName toLowercase name := by
  constructor
  · intro h
    obtain ⟨-, hparse, hcommand⟩ := invokes_iff.mp (h.selects "")
    have hunspaced : ' ' ∉ name.toList := by
      intro hspaced
      exact argsRaw_of_spaced hspaced (congrArg SlashText.argsRaw hparse)
    rw [parseSlash_of_unspaced hunspaced] at hparse
    exact ⟨hcommand, hunspaced, congrArg SlashText.command hparse⟩
  · intro h
    have hselects (args : String) :
        Invokes toLowercase ("/" ++ name ++ " " ++ args) ⟨name, args⟩ := by
      refine invokes_of_parse ?_ ?_ h.nonempty
      · rw [String.append_assoc, String.append_assoc, String.toList_append]
        rfl
      · rw [parseSlash_of_unspaced h.unspaced, h.lower]
    exact ⟨⟨_, "", hselects ""⟩, hselects⟩

end Texts

/-! ## A name with a capital letter -/

/-- The lower case of an ASCII text. -/
def lowerAscii (text : String) : String := String.ofList (text.toList.map Char.toLower)

/-- A command with a capital letter. -/
def rollCommand : BotCommandDef where
  name := "Roll"
  description := ""

/-- The command `Roll` is stored, and out of reach. -/
theorem capital_not_invocable :
    (∃ t, (extUpdateBotCommands "bot" [rollCommand]).run (soloHub "") = (.ok .ok, t) ∧
      rollCommand.row "bot" ∈ t.db.botCommands.rows) ∧
      ¬ Invocable lowerAscii rollCommand.name := by
  constructor
  · exact run_extUpdateBotCommands_one rfl rollCommand
  · intro h
    obtain ⟨-, hparse, -⟩ := invokes_iff.mp (h.selects "")
    have hcommand := congrArg SlashText.command hparse
    revert hcommand
    decide

end Voxply.Hub
