/-
# Forums

A forum is a channel that holds posts, and a post holds replies.  A post is written
with the permission to create posts, a reply with that to send messages; a post or
a reply is changed by its author or by those who manage posts.  Connected clients
learn that something has happened and read it themselves.
-/

import Voxply.Hub.BotDispatch

namespace Voxply.Hub

open Voxply.Math

/-! ## Answers -/

structure PostSummary where
  id : String
  channelId : String
  authorPubkey : Option String
  title : Option String
  createdAt : Int
  editedAt : Option Int
  isPinned : Bool
  isLocked : Bool
  replyCount : Int
  lastActivityAt : Int
  isDeleted : Bool
  deriving DecidableEq

structure ReplyView where
  id : String
  postId : String
  authorPubkey : Option String
  body : Option String
  createdAt : Int
  editedAt : Option Int
  replyToId : Option String
  isDeleted : Bool
  deriving DecidableEq

/-- A post without its replies, as it is answered to those who write it. -/
structure PostDetail where
  summary : PostSummary
  body : Option String
  deriving DecidableEq

/-- `post_to_summary`. The author of a deleted post is shown to moderators. -/
def PostRow.toSummary (row : PostRow) (canModerate : Bool) : PostSummary where
  id := row.id
  channelId := row.channelId
  authorPubkey := if row.deletedAt.isSome ∧ canModerate = false then none else some row.authorPubkey
  title := if row.deletedAt.isSome then none else some row.title
  createdAt := row.createdAt
  editedAt := row.editedAt
  isPinned := row.isPinned
  isLocked := row.isLocked
  replyCount := row.replyCount
  lastActivityAt := row.lastActivityAt
  isDeleted := row.deletedAt.isSome

/-- `reply_to_view`. -/
def PostReplyRow.toView (row : PostReplyRow) (canModerate : Bool) : ReplyView where
  id := row.id
  postId := row.postId
  authorPubkey := if row.deletedAt.isSome ∧ canModerate = false then none else some row.authorPubkey
  body := if row.deletedAt.isSome then none else some row.body
  createdAt := row.createdAt
  editedAt := row.editedAt
  replyToId := row.replyToId
  isDeleted := row.deletedAt.isSome

/-! ## Requests -/

structure CreatePostRequest where
  title : String
  body : String
  deriving DecidableEq

structure EditPostRequest where
  title : Option String := none
  body : Option String := none
  deriving DecidableEq

structure CreateReplyRequest where
  body : String
  replyToId : Option String := none
  deriving DecidableEq

structure EditReplyRequest where
  body : String
  deriving DecidableEq

def createPosts : String := "create_posts"

def managePosts : String := "manage_posts"

/-- What a handler draws and reads off the clock. -/
structure PostEnv where
  id : String
  now : Int
  deriving DecidableEq

/-! ## Guards -/

/-- `require_forum_channel`. -/
def requireForumChannel (channelId : String) : Handler Unit := do
  let found ← fetch (·.channels.find? channelId)
  match found with
  | none => .fail ⟨.notFound, "channel_not_found"⟩
  | some row => do
      .ensure (row.isCategory = false) ⟨.notFound, "not_a_forum"⟩
      .ensure (row.channelType = .forum) ⟨.conflict, "not_a_forum"⟩

/-- `require_post`. -/
def requirePost (channelId postId : String) : Handler PostRow :=
  requireRow (·.posts.find? postId) (·.channelId = channelId) ⟨.notFound, "post_not_found"⟩
    ⟨.notFound, "post_not_found"⟩

/-- `require_reply`. -/
def requireReply (postId replyId : String) : Handler PostReplyRow :=
  requireRow (·.postReplies.find? replyId) (·.postId = postId) ⟨.notFound, "reply_not_found"⟩
    ⟨.notFound, "reply_not_found"⟩

/-- `broadcast_forum_event`. -/
def broadcastForumEvent (event : ForumEvent) : Handler Unit :=
  .exec (·.sendChat (.forum event.channelId) (.forumEvent event.channelId event))

/-! ## Statements

The full-text index is kept by triggers: each statement that writes a row of `posts`
or `post_replies` fires the one for its kind.
-/

/-- The index row of a post. -/
def PostRow.fts (row : PostRow) : PostsFtsRow :=
  ⟨row.id, row.channelId, row.title, row.body⟩

/-- The index row of a reply, in the channel of its post. -/
def PostReplyRow.fts (row : PostReplyRow) (channelId : String) : PostsFtsRow :=
  ⟨row.postId, channelId, "", row.body⟩

/-- `posts_fts_ai`, after a post is inserted. -/
def Db.postsFtsAi (db : Db) (new : PostRow) : Db :=
  { db with postsFts := db.postsFts ++ if new.deletedAt = none then [new.fts] else [] }

/-- `posts_fts_au`, after a post is updated. -/
def Db.postsFtsAu (db : Db) (old new : PostRow) : Db :=
  { db with
    postsFts := db.postsFts.filter (·.postId ≠ old.id) ++
      if new.deletedAt = none then [new.fts] else [] }

/-- What the triggers of `post_replies` insert. -/
def Db.replyFts (db : Db) (new : PostReplyRow) : List PostsFtsRow :=
  if new.deletedAt = none then
    ((db.posts.find? new.postId).map fun post => new.fts post.channelId).toList
  else []

/-- `post_replies_fts_ai`, after a reply is inserted. -/
def Db.postRepliesFtsAi (db : Db) (new : PostReplyRow) : Db :=
  { db with postsFts := db.postsFts ++ db.replyFts new }

/-- `post_replies_fts_au`, after a reply is updated. -/
def Db.postRepliesFtsAu (db : Db) (old new : PostReplyRow) : Db :=
  { db with
    postsFts := (db.postsFts.filter fun row =>
      ¬ (row.postId = old.postId ∧ row.body = old.body ∧ row.title = "")) ++ db.replyFts new }

/-- `INSERT INTO posts`. -/
def insertPost (row : PostRow) (db : Db) : Except SqlError Db :=
  match db.posts.insert? row with
  | none => .error (.primaryKey "posts.id")
  | some posts =>
      if db.channels.has row.channelId then .ok ({ db with posts := posts }.postsFtsAi row)
      else .error .foreignKey

/-- `UPDATE posts SET … WHERE id = ?`. -/
def updatePost (postId : String) (f : PostRow → PostRow) (hf : ∀ row, (f row).id = row.id)
    (db : Db) : Db :=
  match db.posts.find? postId with
  | none => db
  | some old => { db with posts := db.posts.update (·.id = postId) f hf }.postsFtsAu old (f old)

/-- `INSERT INTO post_replies`. -/
def insertReply (row : PostReplyRow) (db : Db) : Except SqlError Db :=
  match db.postReplies.insert? row with
  | none => .error (.primaryKey "post_replies.id")
  | some postReplies =>
      if db.posts.has row.postId ∧ row.replyToId.all postReplies.has then
        .ok ({ db with postReplies := postReplies }.postRepliesFtsAi row)
      else .error .foreignKey

/-- `UPDATE post_replies SET … WHERE id = ?`. -/
def updateReplyWith (replyId : String) (f : PostReplyRow → PostReplyRow)
    (hf : ∀ row, (f row).id = row.id) (db : Db) : Db :=
  match db.postReplies.find? replyId with
  | none => db
  | some old =>
      { db with postReplies := db.postReplies.update (·.id = replyId) f hf }.postRepliesFtsAu old
        (f old)

/-- `UPDATE post_replies SET body = ?, edited_at = ? WHERE id = ?`. -/
def updateReply (replyId body : String) (now : Int) (db : Db) : Db :=
  updateReplyWith replyId (fun row => { row with body := body, editedAt := some now })
    (fun _ => rfl) db

/-! ### What the statements do to the tables -/

@[simp]
theorem posts_updatePost (postId : String) (f : PostRow → PostRow) (hf : ∀ row, (f row).id = row.id)
    (db : Db) : (updatePost postId f hf db).posts = db.posts.update (·.id = postId) f hf := by
  unfold updatePost
  cases hfound : db.posts.find? postId with
  | none =>
      symm
      apply Table.update_eq_self
      intro row hrow hid
      exact absurd (of_decide_eq_true hid) (Table.find?_eq_none_iff.mp hfound row hrow)
  | some old => rfl

@[simp]
theorem postReplies_updatePost (postId : String) (f : PostRow → PostRow)
    (hf : ∀ row, (f row).id = row.id) (db : Db) :
    (updatePost postId f hf db).postReplies = db.postReplies := by
  unfold updatePost
  cases db.posts.find? postId <;> rfl

@[simp]
theorem postReplies_updateReplyWith (replyId : String) (f : PostReplyRow → PostReplyRow)
    (hf : ∀ row, (f row).id = row.id) (db : Db) :
    (updateReplyWith replyId f hf db).postReplies =
      db.postReplies.update (·.id = replyId) f hf := by
  unfold updateReplyWith
  cases hfound : db.postReplies.find? replyId with
  | none =>
      symm
      apply Table.update_eq_self
      intro row hrow hid
      exact absurd (of_decide_eq_true hid) (Table.find?_eq_none_iff.mp hfound row hrow)
  | some old => rfl

@[simp]
theorem posts_updateReplyWith (replyId : String) (f : PostReplyRow → PostReplyRow)
    (hf : ∀ row, (f row).id = row.id) (db : Db) :
    (updateReplyWith replyId f hf db).posts = db.posts := by
  unfold updateReplyWith
  cases db.postReplies.find? replyId <;> rfl

@[simp]
theorem postReplies_updateReply (replyId body : String) (now : Int) (db : Db) :
    (updateReply replyId body now db).postReplies = db.postReplies.update (·.id = replyId)
      (fun row => { row with body := body, editedAt := some now }) fun _ => rfl :=
  postReplies_updateReplyWith replyId _ _ db

/-! ## Handlers -/

/-- `create_post`. -/
def createPost (env : PostEnv) (user channelId : String) (req : CreatePostRequest) :
    Handler (StatusCode × PostDetail) := do
  requireForumChannel channelId
  let perms ← userPermissions user
  .ofExcept (perms.require createPosts)
  .ensure (trim req.title ≠ "") ⟨.badRequest, "title_required"⟩
  .ensure (trim req.body ≠ "") ⟨.badRequest, "body_required"⟩
  execute (insertPost
    { id := env.id, channelId := channelId, authorPubkey := user, title := trim req.title,
      body := trim req.body, createdAt := env.now, lastActivityAt := env.now })
  let row ← requirePost channelId env.id
  broadcastForumEvent ⟨"post_created", channelId, env.id, none⟩
  pure (.created, ⟨row.toSummary (perms.has managePosts), some row.body⟩)

/-- `edit_post`. A body that is all blanks is stored. -/
def editPost (now : Int) (user channelId postId : String) (req : EditPostRequest) :
    Handler PostDetail := do
  requireForumChannel channelId
  let row ← requirePost channelId postId
  .ensure (row.deletedAt = none) ⟨.gone, "post_deleted"⟩
  let perms ← userPermissions user
  .ensure (row.authorPubkey = user ∨ perms.has managePosts = true) ⟨.forbidden, "forbidden"⟩
  let title := trim (req.title.getD row.title)
  let body := trim (req.body.getD row.body)
  .ensure (title ≠ "") ⟨.badRequest, "title_required"⟩
  write (updatePost postId (fun row =>
    { row with title := title, body := body, editedAt := some now }) fun _ => rfl)
  let updated ← requirePost channelId postId
  broadcastForumEvent ⟨"post_updated", channelId, postId, none⟩
  pure ⟨updated.toSummary (perms.has managePosts), some updated.body⟩

/-- The reply that is replied to has to be one to the same post. -/
def checkReplyTo (postId : String) (replyToId : Option String) : Handler Unit :=
  .whenSome replyToId fun replyToId => do
    let belongs ← fetch fun db => (db.postReplies.find? replyToId).any (·.postId = postId)
    .ensure (belongs = true) ⟨.notFound, "reply_to_not_found"⟩

/-- `create_reply`. -/
def createReply (env : PostEnv) (user channelId postId : String) (req : CreateReplyRequest) :
    Handler (StatusCode × ReplyView) := do
  requireForumChannel channelId
  let perms ← userPermissions user
  .ofExcept (perms.require sendMessages)
  let row ← requirePost channelId postId
  .ensure (row.deletedAt = none) ⟨.gone, "post_deleted"⟩
  .ensure (row.isLocked = false ∨ perms.has managePosts = true) ⟨.forbidden, "post_locked"⟩
  .ensure (trim req.body ≠ "") ⟨.badRequest, "body_required"⟩
  checkReplyTo postId req.replyToId
  execute (insertReply
    { id := env.id, postId := postId, authorPubkey := user, body := trim req.body,
      createdAt := env.now, replyToId := req.replyToId })
  write (updatePost postId
    (fun row => { row with replyCount := row.replyCount + 1, lastActivityAt := env.now })
    fun _ => rfl)
  let reply ← requireReply postId env.id
  broadcastForumEvent ⟨"reply_created", channelId, postId, some env.id⟩
  pure (.created, reply.toView (perms.has managePosts))

/-- `edit_reply`. -/
def editReply (now : Int) (user channelId postId replyId : String) (req : EditReplyRequest) :
    Handler ReplyView := do
  requireForumChannel channelId
  let _ ← requirePost channelId postId
  let reply ← requireReply postId replyId
  .ensure (reply.deletedAt = none) ⟨.gone, "reply_deleted"⟩
  let perms ← userPermissions user
  .ensure (reply.authorPubkey = user ∨ perms.has managePosts = true) ⟨.forbidden, "forbidden"⟩
  .ensure (trim req.body ≠ "") ⟨.badRequest, "body_required"⟩
  write (updateReply replyId (trim req.body) now)
  let updated ← requireReply postId replyId
  broadcastForumEvent ⟨"reply_updated", channelId, postId, some replyId⟩
  pure (updated.toView (perms.has managePosts))

/-- `delete_post`. A post that is deleted stays as a row. -/
def deletePost (now : Int) (user channelId postId : String) : Handler StatusCode := do
  requireForumChannel channelId
  let row ← requirePost channelId postId
  if row.deletedAt.isSome then pure .noContent
  else do
    let perms ← userPermissions user
    .ensure (row.authorPubkey = user ∨ perms.has managePosts = true) ⟨.forbidden, "forbidden"⟩
    write (updatePost postId (fun row => { row with deletedAt := some now }) fun _ => rfl)
    broadcastForumEvent ⟨"post_deleted", channelId, postId, none⟩
    pure .noContent

/-- `delete_reply`. -/
def deleteReply (now : Int) (user channelId postId replyId : String) : Handler StatusCode := do
  requireForumChannel channelId
  let _ ← requirePost channelId postId
  let reply ← requireReply postId replyId
  if reply.deletedAt.isSome then pure .noContent
  else do
    let perms ← userPermissions user
    .ensure (reply.authorPubkey = user ∨ perms.has managePosts = true) ⟨.forbidden, "forbidden"⟩
    write (updateReplyWith replyId (fun row => { row with deletedAt := some now }) fun _ => rfl)
    write (updatePost postId (fun row => { row with replyCount := max 0 (row.replyCount - 1) })
      fun _ => rfl)
    broadcastForumEvent ⟨"reply_deleted", channelId, postId, some replyId⟩
    pure .noContent

/-- What `pin_post` and its like have in common. -/
def markPost (f : PostRow → PostRow) (hf : ∀ row, (f row).id = row.id)
    (user channelId postId : String) : Handler StatusCode := do
  requireForumChannel channelId
  let perms ← userPermissions user
  .ofExcept (perms.require managePosts)
  let row ← requirePost channelId postId
  .ensure (row.deletedAt = none) ⟨.gone, "post_deleted"⟩
  write (updatePost postId f hf)
  broadcastForumEvent ⟨"post_updated", channelId, postId, none⟩
  pure .noContent

/-- `pin_post`. -/
def pinPost : String → String → String → Handler StatusCode :=
  markPost (fun row => { row with isPinned := true }) fun _ => rfl

/-- `unpin_post`. -/
def unpinPost : String → String → String → Handler StatusCode :=
  markPost (fun row => { row with isPinned := false }) fun _ => rfl

/-- `lock_post`. -/
def lockPost : String → String → String → Handler StatusCode :=
  markPost (fun row => { row with isLocked := true }) fun _ => rfl

/-- `unlock_post`. -/
def unlockPost : String → String → String → Handler StatusCode :=
  markPost (fun row => { row with isLocked := false }) fun _ => rfl

end Voxply.Hub
