/-
# Channel bans

A ban from a channel is a row in the store.  Connections look at it once, when
they choose what to subscribe to: storing a ban does not reach into the open
connections of the user, and a client that asks to subscribe is not checked.

A banned user therefore hears nothing of the channel exactly as long as the ban
meets no subscription: none that is there when the ban is stored, and none that
the client asks for later.
-/

import Voxply.Hub.Moderation
import Voxply.Hub.Sockets
import Voxply.Math.Schedule

namespace Voxply.Hub

open Voxply.Math

/-! ## The handlers -/

def muteMembers : String := "mute_members"

structure ChannelBanRequest where
  targetPublicKey : String
  reason : Option String := none
  deriving DecidableEq

/-- `INSERT OR REPLACE INTO channel_bans`. -/
def replaceChannelBan (row : ChannelBanRow) (db : Db) : Except SqlError Db :=
  if db.channels.has row.channelId ∧ db.users.has row.targetPublicKey then
    .ok { db with channelBans := db.channelBans.replace row }
  else .error .foreignKey

/-- `DELETE FROM channel_bans WHERE channel_id = ? AND target_public_key = ?`. -/
def deleteChannelBan (channelId targetKey : String) (db : Db) : Db :=
  { db with channelBans := db.channelBans.keep (·.key ≠ (channelId, targetKey)) }

/-- `channel_ban`. The answer repeats the row. -/
def channelBan (now : Int) (user channelId : String) (req : ChannelBanRequest) :
    Handler (StatusCode × ChannelBanRow) := do
  requireCanModerate user req.targetPublicKey muteMembers
  let row : ChannelBanRow := ⟨channelId, req.targetPublicKey, user, req.reason, now⟩
  execute (replaceChannelBan row)
  pure (.created, row)

/-- `channel_ban_v2`: another permission, and no reason. -/
def channelBanV2 (now : Int) (user channelId pubkey : String) :
    Handler (StatusCode × ChannelBanRow) := do
  requireCanModerate user pubkey banMembers
  let row : ChannelBanRow := ⟨channelId, pubkey, user, none, now⟩
  execute (replaceChannelBan row)
  pure (.created, row)

/-- `channel_unban` and `channel_unban_v2`, which ask for different permissions. -/
def channelUnbanWith (permission user channelId targetKey : String) : Handler StatusCode := do
  let perms ← userPermissions user
  .ofExcept (perms.require permission)
  write (deleteChannelBan channelId targetKey)
  pure .noContent

def channelUnban (user channelId targetKey : String) : Handler StatusCode :=
  channelUnbanWith muteMembers user channelId targetKey

def channelUnbanV2 (user channelId targetKey : String) : Handler StatusCode :=
  channelUnbanWith banMembers user channelId targetKey

inductive ChannelBanCall where
  | ban (now : Int) (user channelId : String) (req : ChannelBanRequest)
  | banV2 (now : Int) (user channelId pubkey : String)
  | unban (user channelId targetKey : String)
  | unbanV2 (user channelId targetKey : String)
  deriving DecidableEq

def ChannelBanCall.handler : ChannelBanCall → Handler StatusCode
  | .ban now user channelId req => do
      let answer ← channelBan now user channelId req
      pure answer.1
  | .banV2 now user channelId pubkey => do
      let answer ← channelBanV2 now user channelId pubkey
      pure answer.1
  | .unban user channelId targetKey => channelUnban user channelId targetKey
  | .unbanV2 user channelId targetKey => channelUnbanV2 user channelId targetKey

/-! ## The hub -/

/-- Requests about bans, statement by statement, beside the connections. -/
structure BanHub where
  server : Server ChannelBanCall AppState ApiError StatusCode
  sockets : Sockets := {}

def BanHub.opened (s : AppState) : BanHub where
  server := .idle s

inductive BanMove where
  | http (move : Move ChannelBanCall)
  | socket (move : SocketMove)

def BanHub.db (s : BanHub) : Db :=
  s.server.state.db

/-- One move. The clock counts them. -/
def BanMove.step : BanMove → BanHub → BanHub
  | .http move, s =>
      ⟨Server.step ChannelBanCall.handler move s.server,
        { s.sockets with clock := s.sockets.clock + 1 }⟩
  | .socket move, s =>
      { s with sockets := { s.sockets.move s.db move with clock := s.sockets.clock + 1 } }

def BanMove.frames : BanMove → BanHub → List Receipt
  | .http _, _ => []
  | .socket move, s => Sockets.frames move s.sockets

def BanHub.Banned (s : BanHub) (channelId publicKey : String) : Prop :=
  s.db.isChannelBanned channelId publicKey = true

instance decidableBanned (s : BanHub) (channelId publicKey : String) :
    Decidable (s.Banned channelId publicKey) :=
  inferInstanceAs (Decidable (_ = true))

/-- No client is sent a frame about a channel from which its user has been banned
ever since the event was broadcast. -/
def CutOff (moves : List BanMove) (s : BanHub) : Prop :=
  ∀ receipt ∈ logAll BanMove.step BanMove.frames moves s,
    ∃ i, receipt.sentAt ≤ i ∧ i ≤ receipt.receivedAt ∧
      ¬ (runAll BanMove.step (moves.take i) s).Banned receipt.channelId receipt.publicKey

/-- A ban that is stored finds no subscription of the user, and nobody subscribes to
a channel they are banned from. -/
def BanMove.Uncrossed : BanMove → BanHub → Prop
  | .http move, s =>
      ∀ conn c channelId, s.sockets.conns conn = some c → channelId ∈ c.subscribed →
        (BanMove.step (.http move) s).Banned channelId c.publicKey →
        s.Banned channelId c.publicKey
  | .socket (.subscribe conn channelId), s =>
      ∀ c, s.sockets.at? conn .running = some c → ¬ s.Banned channelId c.publicKey
  | _, _ => True

/-! ## The invariant -/

/-- No connection has subscribed to a channel that its user is banned from. -/
def BanHub.Unsubscribed (s : BanHub) : Prop :=
  ∀ conn c, s.sockets.conns conn = some c → ∀ channelId ∈ c.subscribed,
    ¬ s.Banned channelId c.publicKey

section Invariant

variable {s : BanHub}

theorem mem_openChannels {db : Db} {publicKey channelId : String}
    (h : channelId ∈ db.openChannels publicKey) :
    db.isChannelBanned channelId publicKey = false := by
  rcases List.mem_map.mp h with ⟨row, hrow, rfl⟩
  have hboth := (List.mem_filter.mp hrow).2
  rw [decide_eq_true_iff] at hboth
  exact hboth.2

/-- A change of one connection. -/
theorem Sockets.conns_modify {sockets : Sockets} {conn other : ℕ} {stage : SocketStage}
    {f : SocketConn → SocketConn} {c : SocketConn}
    (h : (sockets.modify conn stage f).conns other = some c) :
    sockets.conns other = some c ∨
      ∃ old, other = conn ∧ sockets.at? conn stage = some old ∧ c = f old := by
  unfold Sockets.modify at h
  dsimp only at h
  split_ifs at h with hsame
  · subst hsame
    rcases Option.map_eq_some_iff.mp h with ⟨old, hold, hc⟩
    split_ifs at hc with hstage
    · exact .inr ⟨old, rfl, by simp [Sockets.at?, hold, hstage], hc.symm⟩
    · exact .inl (hc ▸ hold)
  · exact .inl h

theorem Sockets.conns_modifyAll {sockets : Sockets} {conn : ℕ} {f : SocketConn → SocketConn}
    {c : SocketConn} (h : (sockets.modifyAll f).conns conn = some c) :
    ∃ old, sockets.conns conn = some old ∧ c = f old := by
  rcases Option.map_eq_some_iff.mp h with ⟨old, hold, hc⟩
  exact ⟨old, hold, hc.symm⟩

theorem Sockets.conns_of_at? {sockets : Sockets} {conn : ℕ} {stage : SocketStage} {c : SocketConn}
    (h : sockets.at? conn stage = some c) : sockets.conns conn = some c :=
  (Option.filter_eq_some_iff.mp h).1

/-- Where the subscriptions of a connection come from. -/
theorem Sockets.subscribed_move {db : Db} {move : SocketMove} {sockets : Sockets} {conn : ℕ}
    {c : SocketConn} {channelId : String} (h : (sockets.move db move).conns conn = some c)
    (hmem : channelId ∈ c.subscribed) :
    (∃ old, sockets.conns conn = some old ∧ old.publicKey = c.publicKey ∧
        channelId ∈ old.subscribed) ∨
      channelId ∈ db.openChannels c.publicKey ∨
      ∃ old, move = .subscribe conn channelId ∧ sockets.at? conn .running = some old ∧
        old.publicKey = c.publicKey := by
  have hkept : sockets.conns conn = some c → (∃ old, sockets.conns conn = some old ∧
      old.publicKey = c.publicKey ∧ channelId ∈ old.subscribed) :=
    fun hold => ⟨c, hold, rfl, hmem⟩
  cases move with
  | connect conn' publicKey instant =>
      simp only [Sockets.move] at h
      split at h
      · dsimp only at h
        split_ifs at h with hsame
        · cases h
          cases hmem
        · exact .inl (hkept h)
      · exact .inl (hkept h)
  | autoSubscribe conn' =>
      rcases conns_modify h with hold | ⟨old, rfl, hold, rfl⟩
      · exact .inl (hkept hold)
      · exact .inr (.inl hmem)
  | pushShares conn' =>
      rcases conns_modify h with hold | ⟨old, rfl, hold, rfl⟩
      · exact .inl (hkept hold)
      · exact .inl ⟨old, conns_of_at? hold, rfl, hmem⟩
  | subscribe conn' channel =>
      rcases conns_modify h with hold | ⟨old, rfl, hold, rfl⟩
      · exact .inl (hkept hold)
      · rcases List.mem_insert_iff.mp hmem with rfl | hmem
        · exact .inr (.inr ⟨old, rfl, hold, rfl⟩)
        · exact .inl ⟨old, conns_of_at? hold, rfl, hmem⟩
  | unsubscribe conn' channel =>
      rcases conns_modify h with hold | ⟨old, rfl, hold, rfl⟩
      · exact .inl (hkept hold)
      · exact .inl ⟨old, conns_of_at? hold, rfl, List.mem_of_mem_filter hmem⟩
  | broadcast event message =>
      rcases conns_modifyAll h with ⟨old, hold, rfl⟩
      exact .inl ⟨old, hold, rfl, hmem⟩
  | chunk event =>
      rcases conns_modifyAll h with ⟨old, hold, rfl⟩
      exact .inl ⟨old, hold, rfl, hmem⟩
  | shares streams => exact .inl (hkept h)
  | receive conn' =>
      rcases conns_modify h with hold | ⟨old, rfl, hold, rfl⟩
      · exact .inl (hkept hold)
      · exact .inl ⟨old, conns_of_at? hold, rfl, hmem⟩
  | receiveChunk conn' =>
      rcases conns_modify h with hold | ⟨old, rfl, hold, rfl⟩
      · exact .inl (hkept hold)
      · exact .inl ⟨old, conns_of_at? hold, rfl, hmem⟩
  | disconnect conn' =>
      simp only [Sockets.move] at h
      split_ifs at h
      exact .inl (hkept h)

/-- One move. -/
theorem BanHub.Unsubscribed.step (h : s.Unsubscribed) {move : BanMove} (hmove : move.Uncrossed s) :
    (move.step s).Unsubscribed := by
  intro conn c hconn channelId hmem hbanned
  cases move with
  | http move =>
      exact h conn c hconn channelId hmem (hmove conn c channelId hconn hmem hbanned)
  | socket move =>
      have hbanned' : s.Banned channelId c.publicKey := hbanned
      rcases Sockets.subscribed_move hconn hmem with
        ⟨old, hold, hkey, hin⟩ | hopen | ⟨old, rfl, hold, hkey⟩
      · rw [← hkey] at hbanned'
        exact h conn old hold channelId hin hbanned'
      · rw [BanHub.Banned, mem_openChannels hopen] at hbanned'
        cases hbanned'
      · rw [← hkey] at hbanned'
        exact hmove old hold hbanned'

/-- A frame is about a channel that the connection has subscribed to, or is about
to. -/
theorem Sockets.subscribed_of_mem_frames {move : SocketMove} {sockets : Sockets} {receipt : Receipt}
    (h : receipt ∈ Sockets.frames move sockets) :
    (∃ conn c, sockets.conns conn = some c ∧ c.publicKey = receipt.publicKey ∧
        receipt.channelId ∈ c.subscribed) ∨
      ∃ conn c, move = .subscribe conn receipt.channelId ∧ sockets.at? conn .running = some c ∧
        c.publicKey = receipt.publicKey := by
  cases Sockets.sends_of_mem_frames h with
  | share hat hstream hsubscribed =>
      exact .inl ⟨_, _, conns_of_at? hat, rfl, hsubscribed⟩
  | subscribed hat => exact .inr ⟨_, _, rfl, hat, rfl⟩
  | chat hat hqueue hdelivers => exact .inl ⟨_, _, conns_of_at? hat, rfl, hdelivers.1⟩
  | chunk hat hqueue hdelivers => exact .inl ⟨_, _, conns_of_at? hat, rfl, hdelivers.2⟩

/-! ## Times -/

/-- What waits has been sent before now. -/
def Sockets.Timely (sockets : Sockets) : Prop :=
  ∀ conn c, sockets.conns conn = some c → (∀ entry ∈ c.chatRx, entry.sentAt ≤ sockets.clock) ∧
    ∀ entry ∈ c.screenShareRx, entry.sentAt ≤ sockets.clock

theorem mem_enqueue {A : Type} {queue : List A} {entry x : A} (h : x ∈ enqueue queue entry) :
    x ∈ queue ∨ x = entry := by
  have hmem := List.mem_of_mem_drop h
  rw [List.mem_append, List.mem_singleton] at hmem
  exact hmem

/-- A change of one connection that puts nothing into its queues. -/
theorem Sockets.Timely.modify {sockets : Sockets} (h : sockets.Timely) {conn : ℕ}
    {stage : SocketStage} {f : SocketConn → SocketConn} (hchat : ∀ c, (f c).chatRx ⊆ c.chatRx)
    (hchunks : ∀ c, (f c).screenShareRx ⊆ c.screenShareRx) :
    (sockets.modify conn stage f).Timely := by
  intro other c hc
  rcases conns_modify hc with hold | ⟨old, rfl, hold, rfl⟩
  · exact h other c hold
  · have hboth := h other old (conns_of_at? hold)
    exact ⟨fun entry hentry => hboth.1 entry (hchat old hentry),
      fun entry hentry => hboth.2 entry (hchunks old hentry)⟩

theorem Sockets.Timely.move {sockets : Sockets} (h : sockets.Timely) (db : Db)
    (move : SocketMove) : (sockets.move db move).Timely := by
  cases move with
  | connect conn publicKey instant =>
      simp only [Sockets.move]
      split
      · intro other c hc
        dsimp only at hc
        split_ifs at hc with hsame
        · cases hc
          exact ⟨fun entry hentry => (by cases hentry), fun entry hentry => (by cases hentry)⟩
        · exact h other c hc
      · exact h
  | autoSubscribe conn => exact h.modify (fun _ => List.Subset.refl _) fun _ => List.Subset.refl _
  | pushShares conn => exact h.modify (fun _ => List.Subset.refl _) fun _ => List.Subset.refl _
  | subscribe conn channelId =>
      exact h.modify (fun _ => List.Subset.refl _) fun _ => List.Subset.refl _
  | unsubscribe conn channelId =>
      exact h.modify (fun _ => List.Subset.refl _) fun _ => List.Subset.refl _
  | broadcast event message =>
      intro conn c hc
      rcases conns_modifyAll hc with ⟨old, hold, rfl⟩
      refine ⟨fun entry hentry => ?_, (h conn old hold).2⟩
      dsimp only at hentry
      rcases mem_enqueue hentry with hentry | rfl
      · exact (h conn old hold).1 entry hentry
      · exact Nat.le_refl sockets.clock
  | chunk event =>
      intro conn c hc
      rcases conns_modifyAll hc with ⟨old, hold, rfl⟩
      refine ⟨(h conn old hold).1, fun entry hentry => ?_⟩
      dsimp only at hentry
      rcases mem_enqueue hentry with hentry | rfl
      · exact (h conn old hold).2 entry hentry
      · exact Nat.le_refl sockets.clock
  | shares streams => exact h
  | receive conn => exact h.modify (fun c => List.tail_subset c.chatRx) fun _ => List.Subset.refl _
  | receiveChunk conn =>
      exact h.modify (fun _ => List.Subset.refl _) fun c => List.tail_subset c.screenShareRx
  | disconnect conn =>
      intro other c hc
      simp only [Sockets.move] at hc
      split_ifs at hc
      exact h other c hc

theorem Sockets.Timely.tick {sockets : Sockets} (h : sockets.Timely) :
    Sockets.Timely { sockets with clock := sockets.clock + 1 } := by
  intro conn c hc
  have hboth := h conn c hc
  exact ⟨fun entry hentry => Nat.le_succ_of_le (hboth.1 entry hentry),
    fun entry hentry => Nat.le_succ_of_le (hboth.2 entry hentry)⟩

theorem Sockets.clock_move (db : Db) (move : SocketMove) (sockets : Sockets) :
    (sockets.move db move).clock = sockets.clock := by
  cases move with
  | connect conn publicKey instant =>
      simp only [Sockets.move]
      split <;> rfl
  | _ => rfl

theorem Sockets.times_of_mem_frames {move : SocketMove} {sockets : Sockets} {receipt : Receipt}
    (htimely : sockets.Timely) (h : receipt ∈ Sockets.frames move sockets) :
    receipt.sentAt ≤ receipt.receivedAt ∧ receipt.receivedAt = sockets.clock := by
  cases Sockets.sends_of_mem_frames h with
  | share => exact ⟨le_refl _, rfl⟩
  | subscribed => exact ⟨le_refl _, rfl⟩
  | chat hat hqueue =>
      exact ⟨(htimely _ _ (conns_of_at? hat)).1 _ (hqueue ▸ List.mem_cons_self), rfl⟩
  | chunk hat hqueue =>
      exact ⟨(htimely _ _ (conns_of_at? hat)).2 _ (hqueue ▸ List.mem_cons_self), rfl⟩

end Invariant

/-! ## Runs -/

theorem clock_runAll (moves : List BanMove) (s : BanHub) :
    (runAll BanMove.step moves s).sockets.clock = s.sockets.clock + moves.length := by
  induction moves generalizing s with
  | nil => rfl
  | cons move rest ih =>
      have hstep : (move.step s).sockets.clock = s.sockets.clock + 1 := by
        cases move with
        | http move => rfl
        | socket move => rfl
      rw [runAll, ih, hstep, List.length_cons]
      omega

theorem BanHub.timely_step {s : BanHub} (h : s.sockets.Timely) (move : BanMove) :
    (move.step s).sockets.Timely := by
  cases move with
  | http move => exact h.tick
  | socket move =>
      have hmoved := (h.move s.db move).tick
      rw [Sockets.clock_move] at hmoved
      exact hmoved

/-- No frame of a channel reaches a user who is banned from it, in any run of
requests, connections, client frames and broadcasts in which bans and subscriptions
do not cross. -/
theorem cutOff_of_uncrossed (app : AppState) (moves : List BanMove)
    (hmoves : Along BanMove.step BanMove.Uncrossed moves (.opened app)) :
    CutOff moves (.opened app) := by
  intro receipt hreceipt
  rcases exists_of_mem_logAll hreceipt with ⟨first, move, rest, rfl, hframe⟩
  have hinv : (runAll BanMove.step first (.opened app)).Unsubscribed ∧
      (runAll BanMove.step first (.opened app)).sockets.Timely := by
    refine hmoves.append.1.invariant (fun s => s.Unsubscribed ∧ s.sockets.Timely) ?_ ?_
    · exact fun move s hmove h => ⟨h.1.step hmove, BanHub.timely_step h.2 move⟩
    · exact ⟨fun conn c hc => (by cases hc), fun conn c hc => (by cases hc)⟩
  have huncrossed := hmoves.append.2.1
  cases move with
  | http move => cases hframe
  | socket move =>
      rcases Sockets.times_of_mem_frames hinv.2 hframe with ⟨hle, hnow⟩
      refine ⟨receipt.receivedAt, hle, le_refl _, ?_⟩
      have htake : (first ++ BanMove.socket move :: rest).take receipt.receivedAt = first := by
        rw [hnow, clock_runAll]
        show (first ++ _).take (0 + first.length) = first
        rw [Nat.zero_add, List.take_left]
      rw [htake]
      rcases Sockets.subscribed_of_mem_frames hframe with
        ⟨conn, c, hc, hkey, hmem⟩ | ⟨conn, c, rfl, hat, hkey⟩
      · rw [← hkey]
        exact hinv.1 conn c hc _ hmem
      · rw [← hkey]
        exact huncrossed c hat

/-- A hub with two channels, its owner and a member. -/
def twoChannels : AppState where
  db := { Db.migrated with
    users := ⟨[⟨"alice", 0, 0, .approved, none, false, 0, none, .none, none⟩,
      ⟨"owner", 0, 0, .approved, none, false, 0, none, .none, none⟩], by decide⟩
    userRoles := ⟨[⟨"alice", "builtin-everyone", 0⟩, ⟨"owner", "builtin-owner", 0⟩], by decide⟩
    channels := ⟨[⟨"general", "general", "owner", none, false, 0, none, none, none, none,
      .text, 0, 0⟩,
      ⟨"random", "random", "owner", none, false, 0, none, none, none, none, .text, 0,
      0⟩], by decide⟩ }

/-- The member is banned from the first channel. -/
def banAlice : List BanMove :=
  .http (.start (.ban 10 "owner" "general" ⟨"alice", none⟩)) :: List.replicate 5 (.http (.exec 0))

def connectAlice : List BanMove :=
  [.socket (.connect 0 "alice" 0), .socket (.autoSubscribe 0), .socket (.pushShares 0)]

def hello (channelId : String) : MessageResponse :=
  ⟨"message", channelId, "owner", none, "hello", 20, none, [], [], none, none⟩

/-- The owner writes in the channel, and the connection takes the event up. -/
def talkIn (channelId : String) : List BanMove :=
  [.socket (.broadcast (.new channelId (hello channelId))
    (.chatMessage channelId (hello channelId))), .socket (.receive 0)]

theorem cutOff_bannedBefore :
    CutOff (banAlice ++ connectAlice ++ talkIn "general" ++ talkIn "random") (.opened twoChannels) ∧
      (logAll BanMove.step BanMove.frames
        (banAlice ++ connectAlice ++ talkIn "general" ++ talkIn "random")
        (.opened twoChannels)).map (·.channelId) = ["random"] := by
  refine ⟨cutOff_of_uncrossed twoChannels _ ?_, by decide +kernel⟩
  have hnobody : ∀ {s : BanHub} {conn : ℕ} {c : SocketConn} {channelId : String} {P : Prop},
      s.sockets.conns conn = none → s.sockets.conns conn = some c →
      channelId ∈ c.subscribed → P := by
    intro s conn c channelId P hnone hsome
    rw [hnone] at hsome
    cases hsome
  exact ⟨fun _ _ _ h hmem => hnobody rfl h hmem, fun _ _ _ h hmem => hnobody rfl h hmem,
    fun _ _ _ h hmem => hnobody rfl h hmem, fun _ _ _ h hmem => hnobody rfl h hmem,
    fun _ _ _ h hmem => hnobody rfl h hmem, fun _ _ _ h hmem => hnobody rfl h hmem,
    trivial, trivial, trivial, trivial, trivial, trivial, trivial, trivial⟩

/-- The ban comes when the member is connected. -/
theorem bannedAfter_not_cutOff :
    ¬ ∀ moves, CutOff moves (.opened twoChannels) := by
  intro h
  have hreceipt : (⟨"alice", "general", .text (.chatMessage "general" (hello "general")), 9, 10⟩ :
      Receipt) ∈ logAll BanMove.step BanMove.frames
        (connectAlice ++ banAlice ++ talkIn "general") (.opened twoChannels) := by
    decide +kernel
  rcases h _ _ hreceipt with ⟨i, hsent, hreceived, hfree⟩
  have hi : i = 9 ∨ i = 10 := by
    dsimp only at hsent hreceived
    omega
  rcases hi with rfl | rfl
  · exact hfree (by decide +kernel)
  · exact hfree (by decide +kernel)

end Voxply.Hub
