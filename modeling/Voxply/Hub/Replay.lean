/-
# Replayed events and pushed ones

The same selection of events is made twice: when an event is published, for the
bots that are connected, and when a bot asks for what it has missed.  Publishing
looks for a subscription to the type of the event that is hub-wide or names its
channel.  Replaying only asks whether the bot has some subscription to the type.
A bot that follows an event in one channel is thus replayed the events of all
channels in its scope.
-/

import Voxply.Hub.AuditLog

namespace Voxply.Hub

open Voxply.Math

variable {readCaps : String → Option (List String)} {s t : AppState} {bot : String}
  {row : HubAuditLogRow}

/-! ## The property -/

/-- The event that a row was written for. -/
def HubAuditLogRow.event (row : HubAuditLogRow) : HubEvent :=
  ⟨row.eventType, row.actorPubkey, row.targetPubkey, row.channelId, row.payloadJson⟩

/-- The hub as it would be with the bot connected, and nobody else. -/
def AppState.withOnlyBot (s : AppState) (bot : String) : AppState :=
  { s with
    botSessions := fun other => if other = bot then some 0 else none
    botQueues := fun _ => [] }

/-- What publishing the event of a row would push to the bot if it were
connected. -/
def pushedTo (readCaps : String → Option (List String)) (bot : String) (row : HubAuditLogRow)
    (s : AppState) : List HubEventFrame :=
  ((pushEvents readCaps ⟨row.id, row.atTime⟩ row.event row.seq).run (s.withOnlyBot bot)).2.botQueues
    0

/-- The row is replayed exactly if it would have been pushed, with the same number
and the same payload. -/
structure ReplayAgrees (readCaps : String → Option (List String)) (bot : String)
    (row : HubAuditLogRow) (s : AppState) (replayed : List (HubAuditLogRow × HubEventFrame)) :
    Prop where
  included : (∃ frame, (row, frame) ∈ replayed) ↔ pushedTo readCaps bot row s ≠ []
  same : ∀ frame pushed, (row, frame) ∈ replayed → pushed ∈ pushedTo readCaps bot row s →
    frame.seq = pushed.seq ∧ frame.payload = pushed.payload

/-! ## Pushing -/

/-- The frame that a bot is pushed. -/
def Db.pushFrame (db : Db) (readCaps : String → Option (List String)) (bot : String)
    (row : HubAuditLogRow) : HubEventFrame :=
  ⟨row.seq, row.eventType, db.hubUrl, row.atTime,
    db.payloadFor readCaps bot row.eventType row.payloadJson, none⟩

/-- Pushing to the only bot that is connected. -/
theorem run_pushEvent_self (s : AppState) :
    ∃ u, (pushEvent readCaps ⟨row.id, row.atTime⟩ row.event row.seq s.db.hubUrl
        (s.withOnlyBot bot).botSessions bot).run (s.withOnlyBot bot) = (.ok (), u) ∧
      u.botQueues 0 =
        if s.db.inScope bot row.channelId =
          true then [s.db.pushFrame readCaps bot row] else [] := by
  have hsession : (s.withOnlyBot bot).botSessions bot = some 0 := if_pos rfl
  unfold pushEvent
  rw [hsession]
  dsimp only
  rw [Prog.run_bind_of_ok (run_fetch _ _)]
  by_cases hscope : s.db.inScope bot row.channelId = true
  · have hscope' : (s.withOnlyBot bot).db.inScope bot row.event.channelId = true := hscope
    refine ⟨(s.withOnlyBot bot).trySend 0 (s.db.pushFrame readCaps bot row), ?_, ?_⟩
    · rw [Prog.when, if_pos hscope', Prog.run_bind_of_ok (run_fetch _ _)]
      rfl
    · rw [if_pos hscope]
      rfl
  · have hscope' : ¬ (s.withOnlyBot bot).db.inScope bot row.event.channelId = true := hscope
    refine ⟨s.withOnlyBot bot, ?_, ?_⟩
    · rw [Prog.when, if_neg hscope']
      rfl
    · rw [if_neg hscope]
      rfl

/-- Publishing pushes to a connected bot whom a subscription covers, within its
scope. -/
theorem pushedTo_eq :
    pushedTo readCaps bot row s =
      if bot ∈ s.db.subscribers row.eventType row.channelId ∧
          s.db.inScope bot row.channelId = true then
        [s.db.pushFrame readCaps bot row]
      else [] := by
  obtain ⟨u, hrun, hqueue⟩ := @run_pushEvent_self readCaps bot row s
  unfold pushedTo pushEvents
  rw [Prog.run_bind_of_ok (run_fetch _ _), Prog.run_bind_of_ok (run_fetch _ _)]
  by_cases hempty : (s.withOnlyBot bot).db.subscribers row.event.eventType row.event.channelId = []
  · have hnone : s.db.subscribers row.eventType row.channelId = [] := hempty
    rw [Prog.when, if_neg (not_not.mpr hempty), hnone, if_neg (by simp)]
    rfl
  · rw [Prog.when, if_pos hempty, Prog.run_bind_of_ok (Prog.run_query _ _)]
    have hothers : ∀ other, other ≠ bot →
        pushEvent readCaps ⟨row.id, row.atTime⟩ row.event row.seq s.db.hubUrl
          (s.withOnlyBot bot).botSessions other = pure () := by
      intro other hother
      have hnone : (s.withOnlyBot bot).botSessions other = none := if_neg hother
      rw [pushEvent, hnone]
    have hnodup : (s.db.subscribers row.eventType row.channelId).Nodup := List.nodup_dedup _
    have heach := Prog.run_each_once hnodup hothers hrun
    refine (congrArg (fun result => result.2.botQueues 0) heach).trans ?_
    split_ifs with hsub hboth hboth
    · rw [hqueue, if_pos hboth.2]
    · rw [hqueue, if_neg fun hscope => hboth ⟨hsub, hscope⟩]
    · exact absurd hboth.1 hsub
    · rfl

/-! ## Replaying -/

/-- Without a subscription nothing is replayed. -/
theorem replayFrame_nil (db : Db) (hubUrl : String) :
    db.replayFrame readCaps bot [] hubUrl row = none :=
  if_neg fun h => absurd h.1 List.not_mem_nil

/-- What is replayed of the rows in the window that the bot has not seen. -/
theorem mem_replayed_iff {now sinceSeq : Int} {frames : List (HubAuditLogRow × HubEventFrame)}
    (h : ((replayEventsForBot readCaps now bot sinceSeq).run s).1 = .ok (.complete frames))
    (hrow : row ∈ s.db.auditRowsSince sinceSeq (now - replayWindow)) (frame : HubEventFrame) :
    (row, frame) ∈ frames ↔
      s.db.replayFrame readCaps bot (s.db.subscribedEvents bot) s.db.hubUrl row = some frame := by
  have hmem := (List.perm_insertionSort _ _).mem_iff.mp hrow
  rw [replayEventsForBot, Prog.run_bind_of_ok (run_fetch _ s)] at h
  cases hearliest : s.db.earliestInWindow (now - replayWindow) with
  | none =>
      -- The window holds the row, so it is not empty.
      unfold Db.earliestInWindow at hearliest
      rw [Option.map_eq_none_iff, List.head?_eq_none_iff] at hearliest
      have hwindow : row ∈ s.db.hubAuditLog.rows.filter (now - replayWindow ≤ ·.atTime) := by
        rw [List.mem_filter] at hmem ⊢
        simp_all
      rw [← (List.perm_insertionSort (fun a b => a.seq ≤ b.seq) _).mem_iff, hearliest] at hwindow
      cases hwindow
  | some earliest =>
      rw [hearliest] at h
      dsimp only at h
      split_ifs at h with hgone
      · cases h
      rw [Prog.run_bind_of_ok (run_fetch _ s)] at h
      split_ifs at h with hsubs
      · cases h
        rw [hsubs, replayFrame_nil]
        simp
      · rw [Prog.run_bind_of_ok (run_fetch _ s), Prog.run_bind_of_ok (run_fetch _ s),
          Prog.run_bind_of_ok (run_fetch _ s)] at h
        cases h
        simp only [List.mem_filterMap, Option.map_eq_some_iff, Prod.mk.injEq]
        constructor
        · rintro ⟨row', -, frame', hframe, rfl, rfl⟩
          exact hframe
        · exact fun hframe => ⟨row, hrow, frame, hframe, rfl, rfl⟩

theorem mem_subscribedEvents {db : Db} {eventType : String} :
    eventType ∈ db.subscribedEvents bot ↔
      ∃ sub ∈ db.botSubscriptions.rows, sub.botPubkey = bot ∧ sub.eventType = eventType := by
  simp [Db.subscribedEvents, and_assoc]

theorem mem_subscribers {db : Db} {eventType : String} {channelId : Option String} :
    bot ∈ db.subscribers eventType channelId ↔
      ∃ sub ∈ db.botSubscriptions.rows, sub.botPubkey = bot ∧ sub.Covers eventType channelId := by
  simp only [Db.subscribers, List.mem_dedup, List.mem_map, List.mem_filter, decide_eq_true_eq]
  constructor
  · rintro ⟨sub, ⟨hsub, hcovers⟩, hbot⟩
    exact ⟨sub, hsub, hbot, hcovers⟩
  · rintro ⟨sub, hsub, hbot, hcovers⟩
    exact ⟨sub, ⟨hsub, hcovers⟩, hbot⟩

/-- A replay agrees with publishing on a row exactly if, within its scope, the bot
has a subscription that covers the event or none to events of this type. -/
theorem replayAgrees_iff (readCaps : String → Option (List String)) (now : Int) (bot : String)
    (sinceSeq : Int) (s : AppState) (frames : List (HubAuditLogRow × HubEventFrame))
    (row : HubAuditLogRow)
    (hcomplete : ((replayEventsForBot readCaps now bot sinceSeq).run s).1 = .ok (.complete frames))
    (hrow : row ∈ s.db.auditRowsSince sinceSeq (now - replayWindow)) :
    ReplayAgrees readCaps bot row s frames ↔
      s.db.inScope bot row.channelId = false ∨
        (∃ sub ∈ s.db.botSubscriptions.rows, sub.botPubkey = bot ∧
          sub.Covers row.eventType row.channelId) ∨
        ∀ sub ∈ s.db.botSubscriptions.rows, sub.botPubkey = bot →
          sub.eventType ≠ row.eventType := by
  have hreplayed := fun frame => mem_replayed_iff hcomplete hrow frame
  -- Whoever is pushed an event is also replayed it.
  have hcovered : bot ∈ s.db.subscribers row.eventType row.channelId →
      row.eventType ∈ s.db.subscribedEvents bot := by
    rw [mem_subscribers, mem_subscribedEvents]
    rintro ⟨sub, hsub, hbot, hcovers⟩
    exact ⟨sub, hsub, hbot, hcovers.1⟩
  have hincluded : (∃ frame, (row, frame) ∈ frames) ↔
      row.eventType ∈ s.db.subscribedEvents bot ∧ s.db.inScope bot row.channelId = true := by
    simp only [hreplayed, Db.replayFrame]
    split_ifs with hselected
    · simpa using hselected
    · simpa using hselected
  have hpushed : pushedTo readCaps bot row s ≠ [] ↔
      bot ∈ s.db.subscribers row.eventType row.channelId ∧
        s.db.inScope bot row.channelId = true := by
    rw [pushedTo_eq]
    split_ifs with hselected
    · simpa using hselected
    · simpa using hselected
  rw [← mem_subscribers]
  constructor
  · intro h
    have hboth := h.included
    rw [hincluded, hpushed] at hboth
    by_cases hscope : s.db.inScope bot row.channelId = true
    · by_cases hsub : row.eventType ∈ s.db.subscribedEvents bot
      · exact .inr (.inl (hboth.mp ⟨hsub, hscope⟩).1)
      · refine .inr (.inr fun sub hmem hbot htype => hsub ?_)
        exact mem_subscribedEvents.mpr ⟨sub, hmem, hbot, htype⟩
    · exact .inl (by simpa using hscope)
  · intro h
    refine ⟨?_, ?_⟩
    · rw [hincluded, hpushed]
      constructor
      · rintro ⟨hsub, hscope⟩
        rcases h with hout | hcovers | hnone
        · rw [hscope] at hout
          cases hout
        · exact ⟨hcovers, hscope⟩
        · obtain ⟨sub, hmem, hbot, htype⟩ := mem_subscribedEvents.mp hsub
          exact absurd htype (hnone sub hmem hbot)
      · exact fun hboth => ⟨hcovered hboth.1, hboth.2⟩
    · intro frame pushed hframe hmem
      rw [hreplayed, Db.replayFrame] at hframe
      rw [pushedTo_eq] at hmem
      split_ifs at hframe hmem
      · cases hframe
        rw [List.mem_singleton.mp hmem]
        exact ⟨rfl, rfl⟩
      · cases hmem

/-- A bot that follows the messages of one channel. -/
def channelBot : AppState where
  db :=
    { Db.migrated with
      hubAuditLog := ⟨[⟨"a", 1, "message.created", 10, none, none, some "general", .object []⟩,
        ⟨"b", 2, "message.created", 11, none, none, some "random", .object []⟩], by decide⟩
      botSubscriptions := ⟨[⟨"bot", "message.created", "general"⟩], by decide⟩ }

/-- The message of its channel. -/
theorem replayAgrees_general :
    ∃ frames, ((replayEventsForBot (fun _ => none) 20 "bot" 0).run channelBot).1 =
        .ok (.complete frames) ∧
      ReplayAgrees (fun _ => none) "bot"
        ⟨"a", 1, "message.created", 10, none, none, some "general", .object []⟩ channelBot
        frames := by
  have hrun : ((replayEventsForBot (fun _ => none) 20 "bot" 0).run channelBot).1 =
      .ok (.complete _) := rfl
  refine ⟨_, hrun, (replayAgrees_iff _ _ _ _ _ _ _ hrun (by decide +kernel)).mpr (.inr (.inl ?_))⟩
  exact ⟨⟨"bot", "message.created", "general"⟩, by decide, rfl, rfl, .inr rfl⟩

/-- The message of another channel is replayed, and would not have been pushed. -/
theorem random_not_replayAgrees :
    ∃ frames, ((replayEventsForBot (fun _ => none) 20 "bot" 0).run channelBot).1 =
        .ok (.complete frames) ∧
      ¬ ReplayAgrees (fun _ => none) "bot"
        ⟨"b", 2, "message.created", 11, none, none, some "random", .object []⟩ channelBot
        frames := by
  have hrun : ((replayEventsForBot (fun _ => none) 20 "bot" 0).run channelBot).1 =
      .ok (.complete _) := rfl
  refine ⟨_, hrun, fun h => ?_⟩
  have hpushed := h.included.mp ⟨_, List.mem_of_getElem? (rfl : _[1]? = some _)⟩
  exact absurd hpushed (by decide +kernel)

end Voxply.Hub
