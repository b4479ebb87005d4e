/-
# Silencing

A user who is muted, or banned from a channel, is to be silent there.  The hub
asks for mutes and bans in one place, the handler that sends a message, and the
alliance route for the hub's own channels leads to it.  Editing, reacting, writing
in a forum and speaking in the channels of other hubs do not ask.

For every request that creates or changes content it is said exactly when it
succeeds.  A silenced user fails in it if and only if the request is one of the
two that ask, or would be refused to anybody.
-/

import Voxply.Hub.Messages
import Voxply.Hub.Posts

namespace Voxply.Hub

open Voxply.Math Voxply.Identity

/-! ## Requests -/

/-- The requests that create or change content in a channel. -/
inductive ContentRequest where
  | sendMessage (env : SendMessageEnv) (user channelId : String) (req : SendMessageRequest)
  | editMessage (now : Int) (user channelId messageId : String) (req : EditMessageRequest)
  | createPost (now : Int) (id user channelId : String) (req : CreatePostRequest)
  | editPost (now : Int) (user channelId postId : String) (req : EditPostRequest)
  | createReply (now : Int) (id user channelId postId : String) (req : CreateReplyRequest)
  | editReply (now : Int) (user channelId postId replyId : String) (req : EditReplyRequest)
  | addReaction (now : Int) (user channelId messageId : String) (req : ReactionRequest)
  | postAlliance (env : SendMessageEnv) (user allianceId channelId : String)
      (req : SendMessageRequest)
  deriving DecidableEq

namespace ContentRequest

def user : ContentRequest → String
  | .sendMessage _ user _ _ => user
  | .editMessage _ user _ _ _ => user
  | .createPost _ _ user _ _ => user
  | .editPost _ user _ _ _ => user
  | .createReply _ _ user _ _ _ => user
  | .editReply _ user _ _ _ _ => user
  | .addReaction _ user _ _ _ => user
  | .postAlliance _ user _ _ _ => user

def channelId : ContentRequest → String
  | .sendMessage _ _ channelId _ => channelId
  | .editMessage _ _ channelId _ _ => channelId
  | .createPost _ _ _ channelId _ => channelId
  | .editPost _ _ channelId _ _ => channelId
  | .createReply _ _ _ channelId _ _ => channelId
  | .editReply _ _ channelId _ _ _ => channelId
  | .addReaction _ _ channelId _ _ => channelId
  | .postAlliance _ _ _ channelId _ => channelId

/-- The time at which a mute counts. -/
def time : ContentRequest → Int
  | .sendMessage env _ _ _ => env.mutedAt
  | .editMessage now _ _ _ _ => now
  | .createPost now _ _ _ _ => now
  | .editPost now _ _ _ _ => now
  | .createReply now _ _ _ _ _ => now
  | .editReply now _ _ _ _ _ => now
  | .addReaction now _ _ _ _ => now
  | .postAlliance env _ _ _ _ => env.mutedAt

/-- The handler of a request, with the status of its answer. -/
def handler (world : BotWorld) (alliance : AllianceWorld) : ContentRequest → Handler StatusCode
  | .sendMessage env user channelId req => do
      let answer ← Hub.sendMessage world env user channelId req
      pure answer.1
  | .editMessage now user channelId messageId req => do
      let _ ← Hub.editMessage now user channelId messageId req
      pure .ok
  | .createPost now id user channelId req => do
      let answer ← Hub.createPost ⟨id, now⟩ user channelId req
      pure answer.1
  | .editPost now user channelId postId req => do
      let _ ← Hub.editPost now user channelId postId req
      pure .ok
  | .createReply now id user channelId postId req => do
      let answer ← Hub.createReply ⟨id, now⟩ user channelId postId req
      pure answer.1
  | .editReply now user channelId postId replyId req => do
      let _ ← Hub.editReply now user channelId postId replyId req
      pure .ok
  | .addReaction now user channelId messageId req =>
      Hub.addReaction now user channelId messageId req
  | .postAlliance env user allianceId channelId req => do
      let answer ← postAllianceChannelMessage world alliance env user allianceId channelId req
      pure answer.1

end ContentRequest

/-! ## The property -/

/-- The user is muted, or banned from the channel. -/
def Db.Silenced (db : Db) (now : Int) (user channelId : String) : Prop :=
  db.isMuted now user = true ∨ db.isChannelBanned channelId user = true

/-- The request is refused. -/
def ContentRequest.Fails (world : BotWorld) (alliance : AllianceWorld) (request : ContentRequest)
    (s : AppState) : Prop :=
  ∃ e, ((request.handler world alliance).run s).1 = .error e

/-! ## What the requests ask for -/

/-- The mute and the ban are asked for. -/
def ContentRequest.Guarded (db : Db) : ContentRequest → Prop
  | .sendMessage _ _ _ _ => True
  | .postAlliance _ _ allianceId channelId _ =>
      db.allianceSharedChannels.has (allianceId, channelId) = true
  | _ => False

def Db.IsForum (db : Db) (channelId : String) : Prop :=
  ∃ row, db.channels.find? channelId = some row ∧ row.isCategory = false ∧ row.channelType = .forum

/-- The user has the permission. -/
def Db.Permits (db : Db) (user permission : String) : Prop :=
  (db.userPermissions user).has permission = true

/-- The token that this hub has for a member, or gets by logging in. -/
def AllianceWorld.token (alliance : AllianceWorld) (s : AppState) (member : AllianceMemberRow) :
    Option String :=
  (s.peerTokens member.hubPublicKey).or
    (authenticate alliance.ed25519 s.hubIdentity (alliance.peer member.hubUrl).toRemote).toOption

/-- The member answers that the channel is its own. -/
def AllianceWorld.owns (alliance : AllianceWorld) (s : AppState) (allianceId channelId : String)
    (member : AllianceMemberRow) : Option (String × String) :=
  (alliance.token s member).bind fun token =>
    match (alliance.peer member.hubUrl).sharedChannels token allianceId with
    | .json shared => if channelId ∈ shared then some (member.hubUrl, token) else none
    | _ => none

/-- The first of the other members that owns the channel. -/
def AllianceWorld.owner (alliance : AllianceWorld) (s : AppState) (allianceId channelId : String) :
    Option (String × String) :=
  (s.db.otherMembers allianceId (s.publicKeyHex alliance.ed25519)).findSome?
    (alliance.owns s allianceId channelId)

/-- The request passes all checks but those for mutes and bans. -/
def ContentRequest.Admissible (alliance : AllianceWorld) (s : AppState) : ContentRequest → Prop
  | .sendMessage _ _ _ _ => True
  | .editMessage _ user channelId messageId _ =>
      ∃ row, s.db.messages.find? messageId = some row ∧ row.channelId = channelId ∧
        row.sender = user
  | .createPost _ id user channelId req =>
      s.db.IsForum channelId ∧ s.db.Permits user createPosts ∧ trim req.title ≠ "" ∧
        trim req.body ≠ "" ∧ s.db.posts.has id = false
  | .editPost _ user channelId postId req =>
      s.db.IsForum channelId ∧
        ∃ row, s.db.posts.find? postId = some row ∧ row.channelId = channelId ∧
          row.deletedAt = none ∧ (row.authorPubkey = user ∨ s.db.Permits user managePosts) ∧
          trim (req.title.getD row.title) ≠ ""
  | .createReply _ id user channelId postId req =>
      s.db.IsForum channelId ∧ s.db.Permits user sendMessages ∧
        ∃ row, s.db.posts.find? postId = some row ∧ row.channelId = channelId ∧
          row.deletedAt = none ∧ (row.isLocked = false ∨ s.db.Permits user managePosts) ∧
          trim req.body ≠ "" ∧
          (∀ replyToId, req.replyToId = some replyToId →
            ∃ reply, s.db.postReplies.find? replyToId = some reply ∧ reply.postId = postId) ∧
          s.db.postReplies.has id = false
  | .editReply _ user channelId postId replyId req =>
      s.db.IsForum channelId ∧
        (∃ row, s.db.posts.find? postId = some row ∧ row.channelId = channelId) ∧
        ∃ reply, s.db.postReplies.find? replyId = some reply ∧ reply.postId = postId ∧
          reply.deletedAt = none ∧ (reply.authorPubkey = user ∨ s.db.Permits user managePosts) ∧
          trim req.body ≠ ""
  | .addReaction _ user channelId messageId req =>
      s.db.Permits user sendMessages ∧ trim req.emoji ≠ "" ∧ (trim req.emoji).toList.length ≤ 16 ∧
        (∃ row, s.db.messages.find? messageId = some row ∧ row.channelId = channelId) ∧
        (s.db.users.has user = true ∨
          s.db.messageReactions.has (messageId, trim req.emoji, user) = true)
  | .postAlliance _ user allianceId channelId req =>
      s.db.Permits user sendMessages ∧
        ∃ hubUrl token message, alliance.owner s allianceId channelId = some (hubUrl, token) ∧
          (alliance.peer hubUrl).postMessage token channelId
            (alliancePrefix user ((s.db.setting "hub_name").getD alliance.hubName)
              (s.db.displayNameOf user) ++ req.content) = .json message

/-! ## When statements succeed -/

section Success

variable {A B : Type} {s : AppState}

@[simp]
theorem succeeds_fetch_bind (f : Db → A) (g : A → Handler B) :
    (fetch f >>= g).Succeeds s ↔ (g (f s.db)).Succeeds s :=
  Prog.succeeds_bind_of_ok (run_fetch f s)

@[simp]
theorem succeeds_write_bind (f : Db → Db) (g : Unit → Handler A) :
    (write f >>= g).Succeeds s ↔ (g ()).Succeeds (s.withDb (f s.db)) :=
  Prog.succeeds_bind_of_ok (run_write f s)

@[simp]
theorem succeeds_userPermissions_bind (user : String) (g : UserPermissions → Handler A) :
    (userPermissions user >>= g).Succeeds s ↔ (g (s.db.userPermissions user)).Succeeds s :=
  Prog.succeeds_bind_of_ok (run_userPermissions user s)

@[simp]
theorem succeeds_require_bind (perms : UserPermissions) (permission : String)
    (g : Unit → Handler A) :
    (Prog.ofExcept (perms.require permission) >>= g).Succeeds s ↔
      perms.has permission = true ∧ (g ()).Succeeds s := by
  unfold UserPermissions.require
  split_ifs with hhas
  · rw [Prog.succeeds_bind_of_ok (Prog.run_ofExcept _ s), and_iff_right hhas]
  · exact iff_of_false (Prog.not_succeeds_bind_of_error (Prog.run_ofExcept _ s)) fun h => hhas h.1

theorem succeeds_execute_bind (f : Db → Except SqlError Db) (g : Unit → Handler A) :
    (execute f >>= g).Succeeds s ↔ ∃ db, f s.db = .ok db ∧ (g ()).Succeeds (s.withDb db) := by
  cases hf : f s.db with
  | error e =>
      have hfails := @Prog.not_succeeds_bind_of_error _ _ _ _ _ g _ _ _ (run_execute_of_error hf)
      simp [hfails]
  | ok db =>
      rw [Prog.succeeds_bind_of_ok (run_execute_of_ok hf)]
      simp

/-! ## When the guards let a request pass -/

theorem succeeds_requireRow_bind {Row : Type} {find : Db → Option Row} {belongs : Row → Bool}
    {missing elsewhere : ApiError} {g : Row → Handler A} :
    (requireRow find belongs missing elsewhere >>= g).Succeeds s ↔
      ∃ row, find s.db = some row ∧ belongs row = true ∧ (g row).Succeeds s := by
  rw [Prog.succeeds_bind_iff, run_requireRow]
  cases find s.db with
  | none => simp
  | some row =>
      cases hbelongs : belongs row
      · simp [hbelongs]
      · simp [hbelongs]

theorem succeeds_requireForumChannel_bind {channelId : String} {g : Unit → Handler A} :
    (requireForumChannel channelId >>= g).Succeeds s ↔
      s.db.IsForum channelId ∧ (g ()).Succeeds s := by
  have hrun : (requireForumChannel channelId).run s =
      ((s.db.channels.find? channelId).elim (.error ⟨.notFound, "channel_not_found"⟩) fun row =>
        if row.isCategory = false then
          if row.channelType = .forum then .ok () else .error ⟨.conflict, "not_a_forum"⟩
        else .error ⟨.notFound, "not_a_forum"⟩, s) := by
    rw [requireForumChannel, Prog.run_bind_of_ok (run_fetch _ s)]
    cases s.db.channels.find? channelId with
    | none => rfl
    | some row =>
        by_cases hcategory : row.isCategory = false
        · by_cases hforum : row.channelType = .forum
          · simp [hcategory, hforum, Prog.run_bind', Prog.ensure]
          · simp [hcategory, hforum, Prog.run_bind', Prog.ensure]
        · simp [hcategory, Prog.run_bind', Prog.ensure]
  rw [Prog.succeeds_bind_iff, hrun, Db.IsForum]
  cases s.db.channels.find? channelId with
  | none => simp
  | some row =>
      by_cases hcategory : row.isCategory = false
      · by_cases hforum : row.channelType = .forum
        · simp only [Option.elim_some, hcategory, hforum, if_true, true_and]
          exact ⟨fun h => ⟨⟨row, rfl, hcategory, hforum⟩, h.choose_spec⟩, fun h => ⟨(), h.2⟩⟩
        · simp [hcategory, hforum]
      · simp [hcategory]

/-! ## When requests succeed -/

variable {world : BotWorld} {alliance : AllianceWorld}

/-- An answer that is cut down to its status succeeds with the handler. -/
theorem succeeds_bind_pure {p : Handler A} {f : A → B} :
    (p >>= fun a => pure (f a)).Succeeds s ↔ p.Succeeds s := by
  rw [Prog.succeeds_bind_iff, Prog.Succeeds]
  simp

theorem editMessage_succeeds_iff {now : Int} {user channelId messageId : String}
    {req : EditMessageRequest} :
    (editMessage now user channelId messageId req).Succeeds s ↔
      ∃ row, s.db.messages.find? messageId = some row ∧ row.channelId = channelId ∧
        row.sender = user := by
  unfold editMessage fetchMessageIn broadcastEdited
  simp only [succeeds_requireRow_bind, Prog.succeeds_ensure_bind, succeeds_write_bind,
    decide_eq_true_eq]
  constructor
  · rintro ⟨row, hrow, hchannel, hsender, -⟩
    exact ⟨row, hrow, hchannel, hsender⟩
  · rintro ⟨row, hrow, hchannel, hsender⟩
    refine ⟨row, hrow, hchannel, hsender, ?_⟩
    have hupdated : (s.withDb (updateMessage messageId req.content now s.db)).db.messages.find?
        messageId = some (if row.id = messageId then
          { row with content := req.content, editedAt := some now } else row) := by
      rw [withDb_db, updateMessage, Table.find?_update, hrow]
      simp
    rw [Prog.succeeds_bind_of_ok (run_loadMessage hupdated), Prog.succeeds_exec_bind]
    exact Prog.succeeds_pure _ _

theorem Db.IsForum.has {channelId : String} (h : s.db.IsForum channelId) :
    s.db.channels.has channelId = true := by
  rcases h with ⟨row, hrow, -⟩
  exact Table.has_of_find? hrow

/-- A post can be inserted into a channel unless its id is taken. -/
theorem exists_insertPost (row : PostRow) {db : Db}
    (hchannel : db.channels.has row.channelId = true) (hfree : db.posts.has row.id = false) :
    ∃ db', insertPost row db = .ok db' ∧ db'.posts.find? row.id = some row := by
  rcases Table.insert?_of_free hfree with ⟨posts, hposts, hrows⟩
  refine ⟨Db.postsFtsAi { db with posts := posts } row, ?_, ?_⟩
  · simp [insertPost, hposts, hchannel]
  · show posts.find? row.id = some row
    rw [Table.find?_of_append hrows, if_pos rfl]

theorem insertPost_free {row : PostRow} {db db' : Db} (h : insertPost row db = .ok db') :
    db.posts.has row.id = false := by
  unfold insertPost at h
  cases hposts : db.posts.insert? row with
  | none => simp [hposts] at h
  | some posts => exact Table.has_eq_false_iff.mpr (Table.insert?_eq_some_iff.mp hposts).1

theorem createPost_succeeds_iff {env : PostEnv} {user channelId : String}
    {req : CreatePostRequest} : (createPost env user channelId req).Succeeds s ↔
      s.db.IsForum channelId ∧ s.db.Permits user createPosts ∧ trim req.title ≠ "" ∧
        trim req.body ≠ "" ∧ s.db.posts.has env.id = false := by
  unfold createPost requirePost broadcastForumEvent Db.Permits
  simp only [succeeds_requireForumChannel_bind, succeeds_userPermissions_bind,
    succeeds_require_bind,
    Prog.succeeds_ensure_bind, succeeds_execute_bind, succeeds_requireRow_bind,
    Prog.succeeds_exec_bind, Prog.succeeds_pure, and_true, decide_eq_true_eq, withDb_db]
  refine and_congr_right fun hforum => and_congr_right fun _ => and_congr_right fun _ =>
    and_congr_right fun _ => ⟨?_, fun hfree => ?_⟩
  · rintro ⟨db, hinsert, -⟩
    exact insertPost_free hinsert
  · rcases exists_insertPost
      { id := env.id, channelId := channelId, authorPubkey := user, title := trim req.title,
        body := trim req.body, createdAt := env.now, lastActivityAt := env.now }
      hforum.has hfree with ⟨db, hinsert, hrow⟩
    exact ⟨db, hinsert, _, hrow, rfl⟩

theorem editPost_succeeds_iff {now : Int} {user channelId postId : String} {req : EditPostRequest} :
    (editPost now user channelId postId req).Succeeds s ↔
      s.db.IsForum channelId ∧
        ∃ row, s.db.posts.find? postId = some row ∧ row.channelId = channelId ∧
          row.deletedAt = none ∧ (row.authorPubkey = user ∨ s.db.Permits user managePosts) ∧
          trim (req.title.getD row.title) ≠ "" := by
  unfold editPost requirePost broadcastForumEvent Db.Permits
  simp only [succeeds_requireForumChannel_bind, succeeds_userPermissions_bind,
    Prog.succeeds_ensure_bind, succeeds_write_bind, succeeds_requireRow_bind,
    Prog.succeeds_exec_bind, Prog.succeeds_pure, and_true, decide_eq_true_eq, withDb_db,
    posts_updatePost, Table.find?_update]
  refine and_congr_right fun _ => exists_congr fun row => and_congr_right fun hrow =>
    and_congr_right fun hchannel => and_congr_right fun _ => and_congr_right fun _ => ?_
  rw [hrow]
  apply and_iff_left
  refine ⟨_, rfl, ?_⟩
  dsimp only
  split_ifs <;> exact hchannel

/-- A reply can be inserted unless its id is taken or it replies to nothing. -/
theorem exists_insertReply (row : PostReplyRow) {db : Db} (hpost : db.posts.has row.postId = true)
    (hreplyTo : ∀ replyToId, row.replyToId = some replyToId → db.postReplies.has replyToId = true)
    (hfree : db.postReplies.has row.id = false) :
    ∃ db', insertReply row db = .ok db' ∧ db'.postReplies.find? row.id = some row := by
  rcases Table.insert?_of_free hfree with ⟨postReplies, hreplies, hrows⟩
  have hall : row.replyToId.all postReplies.has = true := by
    cases hreply : row.replyToId with
    | none => rfl
    | some replyToId =>
        exact (Table.has_of_append hrows replyToId).mpr (.inl (hreplyTo replyToId hreply))
  refine ⟨Db.postRepliesFtsAi { db with postReplies := postReplies } row, ?_, ?_⟩
  · simp [insertReply, hreplies, hpost, hall]
  · show postReplies.find? row.id = some row
    rw [Table.find?_of_append hrows, if_pos rfl]

theorem insertReply_free {row : PostReplyRow} {db db' : Db} (h : insertReply row db = .ok db') :
    db.postReplies.has row.id = false := by
  unfold insertReply at h
  cases hreplies : db.postReplies.insert? row with
  | none => simp [hreplies] at h
  | some postReplies => exact Table.has_eq_false_iff.mpr (Table.insert?_eq_some_iff.mp hreplies).1

theorem succeeds_checkReplyTo_bind {postId : String} {replyToId : Option String}
    {g : Unit → Handler A} :
    (checkReplyTo postId replyToId >>= g).Succeeds s ↔
      (∀ id, replyToId = some id →
        ∃ reply, s.db.postReplies.find? id = some reply ∧ reply.postId = postId) ∧
      (g ()).Succeeds s := by
  cases replyToId with
  | none =>
      rw [checkReplyTo, Prog.succeeds_bind_of_ok (rfl : Prog.run _ s = (.ok (), s))]
      simp
  | some id =>
      have hrun : (checkReplyTo postId (some id)).run s =
          (if (s.db.postReplies.find? id).any (·.postId = postId) then .ok ()
            else .error ⟨.notFound, "reply_to_not_found"⟩, s) := by
        rw [checkReplyTo, Prog.whenSome, Prog.run_bind_of_ok (run_fetch _ s), Prog.ensure]
        split_ifs <;> rfl
      have hbelongs : (s.db.postReplies.find? id).any (·.postId = postId) = true ↔
          ∃ reply, s.db.postReplies.find? id = some reply ∧ reply.postId = postId := by
        cases s.db.postReplies.find? id <;> simp
      by_cases hany : (s.db.postReplies.find? id).any (·.postId = postId) = true
      · rw [if_pos hany] at hrun
        rw [Prog.succeeds_bind_of_ok hrun, iff_and_self]
        rintro - _ ⟨rfl⟩
        exact hbelongs.mp hany
      · rw [if_neg hany] at hrun
        refine iff_of_false (Prog.not_succeeds_bind_of_error hrun) fun h => hany ?_
        exact hbelongs.mpr (h.1 id rfl)

theorem createReply_succeeds_iff {env : PostEnv} {user channelId postId : String}
    {req : CreateReplyRequest} :
    (createReply env user channelId postId req).Succeeds s ↔
      s.db.IsForum channelId ∧ s.db.Permits user sendMessages ∧
        ∃ row, s.db.posts.find? postId = some row ∧ row.channelId = channelId ∧
          row.deletedAt = none ∧ (row.isLocked = false ∨ s.db.Permits user managePosts) ∧
          trim req.body ≠ "" ∧
          (∀ replyToId, req.replyToId = some replyToId →
            ∃ reply, s.db.postReplies.find? replyToId = some reply ∧ reply.postId = postId) ∧
          s.db.postReplies.has env.id = false := by
  unfold createReply requirePost requireReply broadcastForumEvent Db.Permits
  simp only [succeeds_requireForumChannel_bind, succeeds_userPermissions_bind,
    succeeds_require_bind,
    Prog.succeeds_ensure_bind, succeeds_execute_bind, succeeds_write_bind, succeeds_requireRow_bind,
    succeeds_checkReplyTo_bind, Prog.succeeds_exec_bind, Prog.succeeds_pure, and_true,
    decide_eq_true_eq, withDb_db, postReplies_updatePost]
  refine and_congr_right fun _ => and_congr_right fun _ => exists_congr fun row =>
    and_congr_right fun hrow => and_congr_right fun _ => and_congr_right fun _ =>
    and_congr_right fun _ => and_congr_right fun _ => and_congr_right fun hreplyTo =>
    ⟨?_, fun hfree => ?_⟩
  · rintro ⟨db, hinsert, -⟩
    exact insertReply_free hinsert
  · have hpost : s.db.posts.has postId = true := Table.has_of_find? hrow
    have hreplies : ∀ replyToId, req.replyToId = some replyToId →
        s.db.postReplies.has replyToId = true := by
      intro replyToId heq
      rcases hreplyTo replyToId heq with ⟨reply, hfind, -⟩
      exact Table.has_of_find? hfind
    rcases exists_insertReply
      { id := env.id, postId := postId, authorPubkey := user, body := trim req.body,
        createdAt := env.now, replyToId := req.replyToId } hpost hreplies hfree with
      ⟨db, hinsert, hreply⟩
    exact ⟨db, hinsert, _, hreply, rfl⟩

theorem editReply_succeeds_iff {now : Int} {user channelId postId replyId : String}
    {req : EditReplyRequest} :
    (editReply now user channelId postId replyId req).Succeeds s ↔
      s.db.IsForum channelId ∧
        (∃ row, s.db.posts.find? postId = some row ∧ row.channelId = channelId) ∧
        ∃ reply, s.db.postReplies.find? replyId = some reply ∧ reply.postId = postId ∧
          reply.deletedAt = none ∧ (reply.authorPubkey = user ∨ s.db.Permits user managePosts) ∧
          trim req.body ≠ "" := by
  unfold editReply requirePost requireReply broadcastForumEvent Db.Permits
  simp only [succeeds_requireForumChannel_bind, succeeds_userPermissions_bind,
    Prog.succeeds_ensure_bind, succeeds_write_bind, succeeds_requireRow_bind,
    Prog.succeeds_exec_bind, Prog.succeeds_pure, and_true, decide_eq_true_eq, withDb_db,
    postReplies_updateReply, Table.find?_update]
  refine and_congr_right fun _ => ?_
  constructor
  · rintro ⟨row, hrow, hchannel, reply, hreply, hpost, hlive, hmay, hbody, -⟩
    exact ⟨⟨row, hrow, hchannel⟩, reply, hreply, hpost, hlive, hmay, hbody⟩
  · rintro ⟨⟨row, hrow, hchannel⟩, reply, hreply, hpost, hlive, hmay, hbody⟩
    refine ⟨row, hrow, hchannel, reply, hreply, hpost, hlive, hmay, hbody, ?_⟩
    rw [hreply]
    refine ⟨_, rfl, ?_⟩
    dsimp only
    split_ifs <;> exact hpost

theorem addReaction_succeeds_iff {now : Int} {user channelId messageId : String}
    {req : ReactionRequest} :
    (addReaction now user channelId messageId req).Succeeds s ↔
      s.db.Permits user sendMessages ∧ trim req.emoji ≠ "" ∧ (trim req.emoji).toList.length ≤ 16 ∧
        (∃ row, s.db.messages.find? messageId = some row ∧ row.channelId = channelId) ∧
        (s.db.users.has user = true ∨
          s.db.messageReactions.has (messageId, trim req.emoji, user) = true) := by
  unfold addReaction Db.Permits
  simp only [succeeds_userPermissions_bind, succeeds_require_bind, Prog.succeeds_ensure_bind,
    succeeds_execute_bind, succeeds_requireRow_bind, succeeds_fetch_bind,
    Prog.succeeds_exec_bind, Prog.succeeds_pure, and_true, decide_eq_true_eq, and_assoc]
  refine and_congr_right fun _ => and_congr_right fun _ => and_congr_right fun _ => ?_
  constructor
  · rintro ⟨row, hrow, hchannel, db, hinsert⟩
    refine ⟨⟨row, hrow, hchannel⟩, ?_⟩
    unfold insertReactionOrIgnore at hinsert
    cases hreactions : s.db.messageReactions.insert? ⟨messageId, trim req.emoji, user, now⟩ with
    | none => exact .inr (Table.has_iff.mpr (Table.insert?_eq_none_iff.mp hreactions))
    | some messageReactions =>
        rw [hreactions] at hinsert
        dsimp only at hinsert
        split_ifs at hinsert with hkeys
        exact .inl hkeys.2
  · rintro ⟨⟨row, hrow, hchannel⟩, hkeys⟩
    refine ⟨row, hrow, hchannel, ?_⟩
    have hmessage : s.db.messages.has messageId = true := by
      exact Table.has_of_find? hrow
    unfold insertReactionOrIgnore
    cases hreactions : s.db.messageReactions.insert? ⟨messageId, trim req.emoji, user, now⟩ with
    | none => exact ⟨s.db, rfl⟩
    | some messageReactions =>
        have hfree := Table.has_eq_false_iff.mpr (Table.insert?_eq_some_iff.mp hreactions).1
        rcases hkeys with huser | htaken
        · exact ⟨{ s.db with messageReactions := messageReactions }, if_pos ⟨hmessage, huser⟩⟩
        · rw [MessageReactionRow.key, htaken] at hfree
          cases hfree

/-- The mute and the ban are found before anything is written. -/
theorem sendMessage_not_succeeds {env : SendMessageEnv} {user channelId : String}
    {req : SendMessageRequest} (h : s.db.Silenced env.mutedAt user channelId) :
    ¬ (sendMessage world env user channelId req).Succeeds s := by
  unfold sendMessage
  simp only [succeeds_userPermissions_bind, succeeds_require_bind, succeeds_fetch_bind,
    Prog.succeeds_ensure_bind]
  rintro ⟨-, hmuted, hbanned, -⟩
  rcases h with h | h
  · rw [hmuted] at h
    cases h
  · rw [hbanned] at h
    cases h

/-! ## Other hubs -/

/-- Each member is known under one key. -/
theorem otherMembers_pairwise (db : Db) (allianceId hubKey : String) :
    (db.otherMembers allianceId hubKey).Pairwise fun a b => a.hubPublicKey ≠ b.hubPublicKey := by
  have hkeys : db.allianceMembers.rows.Pairwise fun a b => a.key ≠ b.key :=
    List.pairwise_map.mp db.allianceMembers.nodup
  have hfiltered := hkeys.filter fun row =>
    decide (row.allianceId = allianceId ∧ row.hubPublicKey ≠ hubKey)
  apply hfiltered.imp_of_mem
  intro a b ha hb hne heq
  rw [List.mem_filter, decide_eq_true_iff] at ha hb
  exact hne (by rw [AllianceMemberRow.key, AllianceMemberRow.key, ha.2.1, hb.2.1, heq])

theorem run_fetchPeerToken (member : AllianceMemberRow) (s : AppState) :
    ∃ t, (fetchPeerToken alliance member).run s = (.ok (alliance.token s member), t) ∧
      t.db = s.db ∧ t.hubIdentity = s.hubIdentity ∧
      ∀ key, key ≠ member.hubPublicKey → t.peerTokens key = s.peerTokens key := by
  unfold fetchPeerToken AllianceWorld.token
  rw [Prog.run_bind_of_ok (Prog.run_query _ s)]
  cases htoken : s.peerTokens member.hubPublicKey with
  | some token => exact ⟨s, rfl, rfl, rfl, fun _ _ => rfl⟩
  | none =>
      dsimp only
      rw [Prog.run_bind_of_ok (Prog.run_query _ s)]
      cases authenticate alliance.ed25519 s.hubIdentity (alliance.peer member.hubUrl).toRemote with
      | error e => exact ⟨s, rfl, rfl, rfl, fun _ _ => rfl⟩
      | ok token => exact ⟨s.setPeerToken member.hubPublicKey token, rfl, rfl, rfl,
          fun _ hne => if_neg hne⟩

/-- The members are asked in order; what is learnt on the way does not matter to
those that come later. -/
theorem run_findOwner {allianceId channelId : String} {members : List AllianceMemberRow}
    (hkeys : members.Pairwise fun a b => a.hubPublicKey ≠ b.hubPublicKey) {s t : AppState}
    (hidentity : t.hubIdentity = s.hubIdentity)
    (htokens : ∀ member ∈ members, t.peerTokens member.hubPublicKey =
      s.peerTokens member.hubPublicKey) :
    ∃ u, (findOwner alliance allianceId channelId members).run t =
        (.ok (members.findSome? (alliance.owns s allianceId channelId)), u) ∧ u.db = t.db := by
  induction members generalizing t with
  | nil => exact ⟨t, rfl, rfl⟩
  | cons member rest ih =>
      rw [List.pairwise_cons] at hkeys
      rcases @run_fetchPeerToken alliance member t with ⟨u, hrun, hdb, hid, hothers⟩
      have hsame : alliance.token t member = alliance.token s member := by
        rw [AllianceWorld.token, AllianceWorld.token, hidentity, htokens member List.mem_cons_self]
      have hnext : ∀ other ∈ rest, u.peerTokens other.hubPublicKey =
          s.peerTokens other.hubPublicKey := by
        intro other hother
        rw [hothers _ (hkeys.1 other hother).symm]
        exact htokens other (List.mem_cons_of_mem _ hother)
      rcases ih hkeys.2 (hid.trans hidentity) hnext with ⟨v, hrest, hv⟩
      unfold findOwner
      rw [Prog.run_bind_of_ok hrun, hsame, List.findSome?_cons]
      unfold AllianceWorld.owns
      cases alliance.token s member with
      | none => exact ⟨v, hrest, hv.trans hdb⟩
      | some token =>
          dsimp only [Option.bind_some]
          cases (alliance.peer member.hubUrl).sharedChannels token allianceId with
          | unreachable => exact ⟨v, hrest, hv.trans hdb⟩
          | invalid => exact ⟨v, hrest, hv.trans hdb⟩
          | json shared =>
              dsimp only
              split_ifs with howner
              · exact ⟨u, rfl, hdb⟩
              · exact ⟨v, hrest, hv.trans hdb⟩

/-- Posting into a channel of another hub succeeds if the owner is found and takes
the message. -/
theorem postAlliance_succeeds_iff {env : SendMessageEnv} {user allianceId channelId : String}
    {req : SendMessageRequest}
    (hremote : s.db.allianceSharedChannels.has (allianceId, channelId) = false) :
    (postAllianceChannelMessage world alliance env user allianceId channelId req).Succeeds s ↔
      s.db.Permits user sendMessages ∧
        ∃ hubUrl token message, alliance.owner s allianceId channelId = some (hubUrl, token) ∧
          (alliance.peer hubUrl).postMessage token channelId
            (alliancePrefix user ((s.db.setting "hub_name").getD alliance.hubName)
              (s.db.displayNameOf user) ++ req.content) = .json message := by
  unfold postAllianceChannelMessage Db.Permits
  simp only [succeeds_userPermissions_bind, succeeds_require_bind, succeeds_fetch_bind, hremote,
    Bool.false_eq_true, if_false, Prog.succeeds_query_bind]
  refine and_congr_right fun _ => ?_
  rcases @run_findOwner alliance allianceId channelId _
    (otherMembers_pairwise s.db allianceId _) s s rfl fun _ _ => rfl with ⟨t, hrun, hdb⟩
  rw [Prog.succeeds_bind_of_ok hrun]
  show _ ↔ ∃ hubUrl token message, alliance.owner s allianceId channelId = _ ∧ _
  rw [AllianceWorld.owner]
  cases (s.db.otherMembers allianceId (s.publicKeyHex alliance.ed25519)).findSome?
      (alliance.owns s allianceId channelId) with
  | none => simp
  | some owner =>
      rcases owner with ⟨hubUrl, token⟩
      simp only [succeeds_fetch_bind, hdb, Option.some.injEq, Prod.mk.injEq]
      cases hpost : (alliance.peer hubUrl).postMessage token channelId
          (alliancePrefix user ((s.db.setting "hub_name").getD alliance.hubName)
            (s.db.displayNameOf user) ++ req.content) with
      | unreachable => simp [Reply.context, hpost]
      | invalid => simp [Reply.context, hpost]
      | json message => simp [Reply.context, hpost]

/-- The alliance route for a channel of this hub asks as well. -/
theorem postAlliance_not_succeeds {env : SendMessageEnv} {user allianceId channelId : String}
    {req : SendMessageRequest}
    (hlocal : s.db.allianceSharedChannels.has (allianceId, channelId) = true)
    (h : s.db.Silenced env.mutedAt user channelId) :
    ¬ (postAllianceChannelMessage world alliance env user allianceId channelId req).Succeeds s := by
  unfold postAllianceChannelMessage
  simp only [succeeds_userPermissions_bind, succeeds_require_bind, succeeds_fetch_bind, hlocal,
    if_true]
  exact fun hsent => sendMessage_not_succeeds h hsent.2

end Success

/-- A silenced user fails in a request that creates or changes content exactly if
the request asks for mutes and bans, or does not pass its other checks. -/
theorem fails_iff_of_silenced (world : BotWorld) (alliance : AllianceWorld)
    (request : ContentRequest) (s : AppState)
    (h : s.db.Silenced request.time request.user request.channelId) :
    request.Fails world alliance s ↔
      request.Guarded s.db ∨ ¬ request.Admissible alliance s := by
  unfold ContentRequest.Fails
  rw [← Prog.not_succeeds_iff]
  cases request with
  | sendMessage env user channelId req =>
      refine iff_of_true ?_ (.inl trivial)
      show ¬ Prog.Succeeds (_ >>= _) s
      rw [succeeds_bind_pure]
      exact sendMessage_not_succeeds h
  | editMessage now user channelId messageId req =>
      show ¬ Prog.Succeeds (_ >>= _) s ↔ False ∨ _
      rw [succeeds_bind_pure, editMessage_succeeds_iff, false_or]
      rfl
  | createPost now id user channelId req =>
      show ¬ Prog.Succeeds (_ >>= _) s ↔ False ∨ _
      rw [succeeds_bind_pure, createPost_succeeds_iff, false_or]
      rfl
  | editPost now user channelId postId req =>
      show ¬ Prog.Succeeds (_ >>= _) s ↔ False ∨ _
      rw [succeeds_bind_pure, editPost_succeeds_iff, false_or]
      rfl
  | createReply now id user channelId postId req =>
      show ¬ Prog.Succeeds (_ >>= _) s ↔ False ∨ _
      rw [succeeds_bind_pure, createReply_succeeds_iff, false_or]
      rfl
  | editReply now user channelId postId replyId req =>
      show ¬ Prog.Succeeds (_ >>= _) s ↔ False ∨ _
      rw [succeeds_bind_pure, editReply_succeeds_iff, false_or]
      rfl
  | addReaction now user channelId messageId req =>
      show ¬ Prog.Succeeds (addReaction _ _ _ _ _) s ↔ False ∨ _
      rw [addReaction_succeeds_iff, false_or]
      rfl
  | postAlliance env user allianceId channelId req =>
      show ¬ Prog.Succeeds (_ >>= _) s ↔ _
      rw [succeeds_bind_pure]
      cases hlocal : s.db.allianceSharedChannels.has (allianceId, channelId) with
      | true => exact iff_of_true (postAlliance_not_succeeds hlocal h) (.inl hlocal)
      | false =>
          have hunguarded :
              ¬ (ContentRequest.postAlliance env user allianceId channelId req).Guarded s.db := by
            intro hguarded
            rw [ContentRequest.Guarded, hlocal] at hguarded
            cases hguarded
          rw [postAlliance_succeeds_iff hlocal, or_iff_right hunguarded]
          rfl

/-- A hub with a channel and a forum, where a member has written something and then
was muted and banned from both. -/
def silencedMember : AppState where
  db := { Db.migrated with
    users := ⟨[⟨"owner", 0, 0, .approved, none, false, 0, none, .none, none⟩,
      ⟨"alice", 0, 0, .approved, none, false, 0, none, .none, none⟩], by decide⟩
    userRoles := ⟨[⟨"owner", "builtin-owner", 0⟩, ⟨"alice", "builtin-everyone", 0⟩], by decide⟩
    channels := ⟨[⟨"general", "general", "owner", none, false, 0, none, none, none, none,
      .text, 0, 0⟩,
      ⟨"ideas", "ideas", "owner", none, false, 0, none, none, none, none, .forum, 0, 0⟩], by decide⟩
    messages := .single ⟨"hello", "general", "alice", "hello", [], none, 1, none, none⟩
    mutes := .single ⟨"alice", "owner", none, none, 2⟩
    channelBans := ⟨[⟨"general", "alice", "owner", none, 2⟩, ⟨"ideas", "alice", "owner", none, 2⟩],
      by decide⟩ }

/-- Nobody is there. -/
def emptyWorld : BotWorld where
  slash := fun _ _ => none
  component := fun _ _ => none
  toLowercase := id

def lonelyHub : AllianceWorld where
  ed25519 := .ofRecorded []
  peer := fun _ =>
    { info := .unreachable
      challenge := fun _ => .unreachable
      verify := fun _ => .unreachable
      sharedChannels := fun _ _ => .unreachable
      postMessage := fun _ _ _ => .unreachable
      channelMessages := fun _ _ => .unreachable }
  hubName := "hub"

def aliceSends : ContentRequest :=
  .sendMessage ⟨"new", 3, 3, ⟨"hint", "reply", 3⟩, "error", 3⟩ "alice" "general" ⟨"hi", [], none⟩

/-- She cannot send a message. -/
theorem silencedMember_sends :
    silencedMember.db.Silenced aliceSends.time aliceSends.user aliceSends.channelId ∧
      aliceSends.Fails emptyWorld lonelyHub silencedMember := by
  have hsilenced : silencedMember.db.Silenced aliceSends.time aliceSends.user
      aliceSends.channelId :=
    .inl (by decide +kernel)
  exact ⟨hsilenced,
    (fails_iff_of_silenced emptyWorld lonelyHub aliceSends silencedMember hsilenced).mpr
    (.inl trivial)⟩

def aliceEdits : ContentRequest :=
  .editMessage 3 "alice" "general" "hello" ⟨"something else"⟩

def alicePosts : ContentRequest :=
  .createPost 3 "post" "alice" "ideas" ⟨"title", "body"⟩

/-- But she rewrites the message she has sent, and posts in the forum. -/
theorem silencedMember_not_fails :
    silencedMember.db.isMuted 3 "alice" = true ∧
      silencedMember.db.isChannelBanned "general" "alice" = true ∧
      silencedMember.db.isChannelBanned "ideas" "alice" = true ∧
      ¬ aliceEdits.Fails emptyWorld lonelyHub silencedMember ∧
      ¬ alicePosts.Fails emptyWorld lonelyHub silencedMember := by
  have hedits : ((aliceEdits.handler emptyWorld lonelyHub).run silencedMember).1 = .ok .ok := by
    decide +kernel
  have hposts : ((alicePosts.handler emptyWorld lonelyHub).run silencedMember).1 =
      .ok .created := by
    decide +kernel
  refine ⟨by decide +kernel, by decide +kernel, by decide +kernel, ?_, ?_⟩
  · rintro ⟨e, he⟩
    rw [hedits] at he
    cases he
  · rintro ⟨e, he⟩
    rw [hposts] at he
    cases he

end Voxply.Hub
