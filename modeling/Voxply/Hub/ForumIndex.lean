/-
# The index of the forums

The full-text index of the forums is kept by triggers.  The trigger for an update of
a post deletes all rows of the post, those of its replies included, and inserts the
one of the post; it fires for every update, also for that of a counter.  The trigger
for an update of a reply deletes by text.

The index is looked at post by post.  For each request it is said exactly when it
keeps the index right, and from that when all states of a run have a right index.
-/

import Voxply.Hub.Silencing

namespace Voxply.Hub

open Voxply.Math

/-! ## What the index should hold -/

/-- The replies to a post that are not deleted. -/
def Db.liveReplies (db : Db) (postId : String) : List PostReplyRow :=
  db.postReplies.rows.filter fun row => row.postId = postId ∧ row.deletedAt = none

/-- One row for the post and one for each of its replies, unless they are deleted. -/
def Db.indexedPost (db : Db) (post : PostRow) : List PostsFtsRow :=
  if post.deletedAt = none then
    post.fts :: (db.liveReplies post.id).map (·.fts post.channelId)
  else []

/-- The index holds what it should, in some order, and nothing else. -/
def Db.IndexRight (db : Db) : Prop :=
  db.postsFts.Perm (db.posts.rows.flatMap db.indexedPost)

instance decidableIndexRight (db : Db) : Decidable db.IndexRight :=
  inferInstanceAs (Decidable (List.Perm _ _))

/-- The foreign key of `post_replies`. -/
def Db.RepliesHome (db : Db) : Prop :=
  ∀ reply ∈ db.postReplies.rows, db.posts.has reply.postId = true

instance decidableRepliesHome (db : Db) : Decidable db.RepliesHome :=
  inferInstanceAs (Decidable (∀ reply ∈ db.postReplies.rows, db.posts.has reply.postId = true))

/-! ## Requests -/

inductive ForumRequest where
  | createPost (env : PostEnv) (user channelId : String) (req : CreatePostRequest)
  | editPost (now : Int) (user channelId postId : String) (req : EditPostRequest)
  | deletePost (now : Int) (user channelId postId : String)
  | createReply (env : PostEnv) (user channelId postId : String) (req : CreateReplyRequest)
  | editReply (now : Int) (user channelId postId replyId : String) (req : EditReplyRequest)
  | deleteReply (now : Int) (user channelId postId replyId : String)
  | pinPost (user channelId postId : String)
  | unpinPost (user channelId postId : String)
  | lockPost (user channelId postId : String)
  | unlockPost (user channelId postId : String)
  deriving DecidableEq

namespace ForumRequest

/-- The state after a request, answered or refused. -/
def step (request : ForumRequest) (s : AppState) : AppState :=
  match request with
  | .createPost env user channelId req => ((Hub.createPost env user channelId req).run s).2
  | .editPost now user channelId postId req =>
      ((Hub.editPost now user channelId postId req).run s).2
  | .deletePost now user channelId postId => ((Hub.deletePost now user channelId postId).run s).2
  | .createReply env user channelId postId req =>
      ((Hub.createReply env user channelId postId req).run s).2
  | .editReply now user channelId postId replyId req =>
      ((Hub.editReply now user channelId postId replyId req).run s).2
  | .deleteReply now user channelId postId replyId =>
      ((Hub.deleteReply now user channelId postId replyId).run s).2
  | .pinPost user channelId postId => ((Hub.pinPost user channelId postId).run s).2
  | .unpinPost user channelId postId => ((Hub.unpinPost user channelId postId).run s).2
  | .lockPost user channelId postId => ((Hub.lockPost user channelId postId).run s).2
  | .unlockPost user channelId postId => ((Hub.unlockPost user channelId postId).run s).2

end ForumRequest

/-- The moderators of a forum can mark a post that is there. -/
def Db.Marks (db : Db) (user channelId postId : String) : Prop :=
  db.IsForum channelId ∧ db.Permits user managePosts ∧
    ∃ row, db.posts.find? postId = some row ∧ row.channelId = channelId ∧ row.deletedAt = none

/-- The request passes its checks and has something to do. -/
def ForumRequest.Passes (db : Db) : ForumRequest → Prop
  | .createPost env user channelId req =>
      db.IsForum channelId ∧ db.Permits user createPosts ∧ trim req.title ≠ "" ∧
        trim req.body ≠ "" ∧ db.posts.has env.id = false
  | .editPost _ user channelId postId req =>
      db.IsForum channelId ∧
        ∃ row, db.posts.find? postId = some row ∧ row.channelId = channelId ∧
          row.deletedAt = none ∧ (row.authorPubkey = user ∨ db.Permits user managePosts) ∧
          trim (req.title.getD row.title) ≠ ""
  | .deletePost _ user channelId postId =>
      db.IsForum channelId ∧
        ∃ row, db.posts.find? postId = some row ∧ row.channelId = channelId ∧
          row.deletedAt = none ∧ (row.authorPubkey = user ∨ db.Permits user managePosts)
  | .createReply env user channelId postId req =>
      db.IsForum channelId ∧ db.Permits user sendMessages ∧
        ∃ row, db.posts.find? postId = some row ∧ row.channelId = channelId ∧
          row.deletedAt = none ∧ (row.isLocked = false ∨ db.Permits user managePosts) ∧
          trim req.body ≠ "" ∧
          (∀ replyToId, req.replyToId = some replyToId →
            ∃ reply, db.postReplies.find? replyToId = some reply ∧ reply.postId = postId) ∧
          db.postReplies.has env.id = false
  | .editReply _ user channelId postId replyId req =>
      db.IsForum channelId ∧
        (∃ row, db.posts.find? postId = some row ∧ row.channelId = channelId) ∧
        ∃ reply, db.postReplies.find? replyId = some reply ∧ reply.postId = postId ∧
          reply.deletedAt = none ∧ (reply.authorPubkey = user ∨ db.Permits user managePosts) ∧
          trim req.body ≠ ""
  | .deleteReply _ user channelId postId replyId =>
      db.IsForum channelId ∧
        (∃ row, db.posts.find? postId = some row ∧ row.channelId = channelId) ∧
        ∃ reply, db.postReplies.find? replyId = some reply ∧ reply.postId = postId ∧
          reply.deletedAt = none ∧ (reply.authorPubkey = user ∨ db.Permits user managePosts)
  | .pinPost user channelId postId => db.Marks user channelId postId
  | .unpinPost user channelId postId => db.Marks user channelId postId
  | .lockPost user channelId postId => db.Marks user channelId postId
  | .unlockPost user channelId postId => db.Marks user channelId postId

/-- What a request must find for the index to stay right: one that writes the row of
a post, no replies to it, or none that stay; one that edits a reply, a post that is
not deleted and no other text like the one that is replaced. -/
def ForumRequest.Harmless (db : Db) : ForumRequest → Prop
  | .createPost _ _ _ _ => True
  | .editPost _ _ _ postId _ => db.liveReplies postId = []
  | .deletePost _ _ _ _ => True
  | .createReply _ _ _ _ _ => False
  | .editReply _ _ _ postId replyId _ =>
      ∀ post ∈ db.posts.find? postId, ∀ reply ∈ db.postReplies.find? replyId,
        post.deletedAt = none ∧ ¬ (post.title = "" ∧ post.body = reply.body) ∧
          ∀ other ∈ db.liveReplies postId, other.id ≠ replyId → other.body ≠ reply.body
  | .deleteReply _ _ _ postId replyId =>
      ∀ post ∈ db.posts.find? postId,
        post.deletedAt = none → ∀ other ∈ db.liveReplies postId, other.id = replyId
  | .pinPost _ _ postId => db.liveReplies postId = []
  | .unpinPost _ _ postId => db.liveReplies postId = []
  | .lockPost _ _ postId => db.liveReplies postId = []
  | .unlockPost _ _ postId => db.liveReplies postId = []

/-! ## What the requests do to the store -/

section Leaves

variable {A B : Type} {s : AppState} {inv : Db → Prop}

/-- Run alone, and however it ends, the program leaves a store with the property. -/
def LeavesDb (p : Handler A) (s : AppState) (inv : Db → Prop) : Prop :=
  p.Leaves s fun t => inv t.db

theorem leaves_write_bind {f : Db → Db} {g : Unit → Handler A} :
    LeavesDb (write f >>= g) s inv ↔ LeavesDb (g ()) (s.withDb (f s.db)) inv :=
  Prog.leaves_bind_of_ok (run_write f s)

theorem leaves_userPermissions_bind {user : String} {g : UserPermissions → Handler A} :
    LeavesDb (userPermissions user >>= g) s inv ↔
      LeavesDb (g (s.db.userPermissions user)) s inv :=
  Prog.leaves_bind_of_ok (run_userPermissions user s)

theorem leaves_ensure_bind {c : Prop} [Decidable c] {e : ApiError} {g : Unit → Handler A}
    (hs : inv s.db) : LeavesDb (Prog.ensure c e >>= g) s inv ↔ (c → LeavesDb (g ()) s inv) :=
  @Prog.leaves_ensure_bind _ _ _ s (fun t => inv t.db) c _ e g hs

/-- A first part that only reads has to be looked at where it returns. -/
theorem leaves_reads_bind {p : Handler A} (hp : p.Reads) {g : A → Handler B} (hs : inv s.db) :
    LeavesDb (p >>= g) s inv ↔ ∀ a, (p.run s).1 = .ok a → LeavesDb (g a) s inv :=
  @Prog.Reads.leaves_bind_iff _ _ _ _ s (fun t => inv t.db) p g hp hs

/-- A check that returns nothing. -/
theorem leaves_check_bind {p : Handler Unit} (hp : p.Reads) {g : Unit → Handler A}
    (hs : inv s.db) : LeavesDb (p >>= g) s inv ↔ (p.Succeeds s → LeavesDb (g ()) s inv) := by
  rw [leaves_reads_bind hp hs, Prog.Succeeds]
  constructor
  · rintro h ⟨a, ha⟩
    exact h a ha
  · intro h a ha
    exact h ⟨a, ha⟩

theorem leaves_require_bind {perms : UserPermissions} {permission : String} {g : Unit → Handler A}
    (hs : inv s.db) :
    LeavesDb (Prog.ofExcept (perms.require permission) >>= g) s inv ↔
      (perms.has permission = true → LeavesDb (g ()) s inv) := by
  have hpermits : (Prog.ofExcept (perms.require permission) : Handler Unit).Succeeds s ↔
      perms.has permission = true := by
    rw [← @succeeds_bind_pure _ _ _ _ id, succeeds_require_bind]
    exact and_iff_left (Prog.succeeds_pure () s)
  rw [leaves_check_bind (Prog.reads_ofExcept _) hs, hpermits]

theorem leaves_requireRow_bind {Row : Type} {find : Db → Option Row} {belongs : Row → Bool}
    {missing elsewhere : ApiError} {g : Row → Handler A} (hs : inv s.db) :
    LeavesDb (requireRow find belongs missing elsewhere >>= g) s inv ↔
      ∀ row, find s.db = some row → belongs row = true → LeavesDb (g row) s inv := by
  have hreads : (requireRow find belongs missing elsewhere).Reads := by
    intro t
    rw [run_requireRow]
  rw [leaves_reads_bind hreads hs, run_requireRow]
  cases find s.db with
  | none => simp
  | some row =>
      cases hbelongs : belongs row
      · simp [hbelongs]
      · simp [hbelongs]

theorem leaves_requireForumChannel_bind {channelId : String} {g : Unit → Handler A}
    (hs : inv s.db) :
    LeavesDb (requireForumChannel channelId >>= g) s inv ↔
      (s.db.IsForum channelId → LeavesDb (g ()) s inv) := by
  have hreads : (requireForumChannel channelId).Reads := by
    apply Prog.Reads.bind (Prog.reads_query _)
    intro found
    cases found with
    | none => exact fun _ => rfl
    | some row => exact Prog.Reads.bind Prog.reads_ensure fun _ => Prog.reads_ensure
  have hforum : (requireForumChannel channelId).Succeeds s ↔ s.db.IsForum channelId := by
    rw [← @succeeds_bind_pure _ _ _ _ id, succeeds_requireForumChannel_bind]
    exact and_iff_left (Prog.succeeds_pure () s)
  rw [leaves_check_bind hreads hs, hforum]

theorem leaves_checkReplyTo_bind {postId : String} {replyToId : Option String}
    {g : Unit → Handler A} (hs : inv s.db) :
    LeavesDb (checkReplyTo postId replyToId >>= g) s inv ↔
      ((∀ id, replyToId = some id →
        ∃ reply, s.db.postReplies.find? id = some reply ∧ reply.postId = postId) →
        LeavesDb (g ()) s inv) := by
  have hreads : (checkReplyTo postId replyToId).Reads :=
    Prog.reads_whenSome fun _ => Prog.Reads.bind (Prog.reads_query _) fun _ => Prog.reads_ensure
  have hbelongs : (checkReplyTo postId replyToId).Succeeds s ↔ ∀ id, replyToId = some id →
      ∃ reply, s.db.postReplies.find? id = some reply ∧ reply.postId = postId := by
    rw [← @succeeds_bind_pure _ _ _ _ id, succeeds_checkReplyTo_bind]
    exact and_iff_left (Prog.succeeds_pure () s)
  rw [leaves_check_bind hreads hs, hbelongs]

theorem leaves_execute_bind {f : Db → Except SqlError Db} {g : Unit → Handler A} (hs : inv s.db) :
    LeavesDb (execute f >>= g) s inv ↔
      ∀ db, f s.db = .ok db → LeavesDb (g ()) (s.withDb db) inv := by
  cases hf : f s.db with
  | error e =>
      rw [LeavesDb, Prog.Leaves, Prog.run_bind_of_error (run_execute_of_error hf)]
      simp [hs]
  | ok db =>
      rw [LeavesDb, Prog.leaves_bind_of_ok (run_execute_of_ok hf)]
      simp [LeavesDb]

/-- The row is read once more and the others are told. -/
theorem leaves_answer {Row : Type} {find : Db → Option Row} {belongs : Row → Bool}
    {missing elsewhere : ApiError} {event : ForumEvent} {f : Row → A} :
    LeavesDb (requireRow find belongs missing elsewhere >>= fun row =>
      broadcastForumEvent event >>= fun _ => pure (f row)) s inv ↔
      inv s.db := by
  rw [LeavesDb, Prog.Leaves, Prog.run_bind', run_requireRow]
  cases find s.db with
  | none => rfl
  | some row =>
      cases hbelongs : belongs row
      · simp [hbelongs]
      · simp [hbelongs, broadcastForumEvent, Prog.run_bind', AppState.sendChat]

/-- Only the others are told. -/
theorem leaves_announce {event : ForumEvent} {a : A} :
    LeavesDb (broadcastForumEvent event >>= fun _ => pure a) s inv ↔ inv s.db :=
  Iff.rfl

variable {user channelId postId replyId : String}

theorem createPost_leaves {env : PostEnv} {req : CreatePostRequest} (hs : inv s.db) :
    LeavesDb (createPost env user channelId req) s inv ↔
      (s.db.IsForum channelId → s.db.Permits user createPosts → trim req.title ≠ "" →
        trim req.body ≠ "" → ∀ db, insertPost
          { id := env.id, channelId := channelId, authorPubkey := user, title := trim req.title,
            body := trim req.body, createdAt := env.now, lastActivityAt := env.now } s.db = .ok db →
          inv db) := by
  unfold createPost requirePost Db.Permits
  rw [leaves_requireForumChannel_bind hs, leaves_userPermissions_bind, leaves_require_bind hs,
    leaves_ensure_bind hs, leaves_ensure_bind hs, leaves_execute_bind hs]
  simp only [leaves_answer, withDb_db]

theorem editPost_leaves {now : Int} {req : EditPostRequest} (hs : inv s.db) :
    LeavesDb (editPost now user channelId postId req) s inv ↔
      (s.db.IsForum channelId → ∀ row, s.db.posts.find? postId = some row →
        row.channelId = channelId → row.deletedAt = none →
        (row.authorPubkey = user ∨ s.db.Permits user managePosts) →
        trim (req.title.getD row.title) ≠ "" →
          inv (updatePost postId (fun old =>
            { old with
              title := trim (req.title.getD row.title)
              body := trim (req.body.getD row.body)
              editedAt := some now }) (fun _ => rfl) s.db)) := by
  unfold editPost requirePost Db.Permits
  rw [leaves_requireForumChannel_bind hs, leaves_requireRow_bind hs]
  simp only [leaves_ensure_bind hs, leaves_userPermissions_bind, leaves_write_bind,
    leaves_answer, withDb_db, decide_eq_true_eq]

theorem deletePost_leaves {now : Int} (hs : inv s.db) :
    LeavesDb (deletePost now user channelId postId) s inv ↔
      (s.db.IsForum channelId → ∀ row, s.db.posts.find? postId = some row →
        row.channelId = channelId → row.deletedAt = none →
        (row.authorPubkey = user ∨ s.db.Permits user managePosts) →
          inv (updatePost postId (fun old => { old with deletedAt := some now }) (fun _ => rfl)
            s.db)) := by
  unfold deletePost requirePost Db.Permits
  rw [leaves_requireForumChannel_bind hs, leaves_requireRow_bind hs]
  refine imp_congr_right fun _ => forall_congr' fun row => imp_congr_right fun _ => ?_
  rw [decide_eq_true_eq]
  refine imp_congr_right fun _ => ?_
  cases hdeleted : row.deletedAt with
  | some deletedAt => exact iff_of_true hs fun h => by cases h
  | none =>
      rw [if_neg (by simp), leaves_userPermissions_bind, leaves_ensure_bind hs,
        leaves_write_bind, leaves_announce, withDb_db, imp_iff_right rfl]

theorem createReply_leaves {env : PostEnv} {req : CreateReplyRequest} (hs : inv s.db) :
    LeavesDb (createReply env user channelId postId req) s inv ↔
      (s.db.IsForum channelId → s.db.Permits user sendMessages →
        ∀ row, s.db.posts.find? postId = some row → row.channelId = channelId →
        row.deletedAt = none → (row.isLocked = false ∨ s.db.Permits user managePosts) →
        trim req.body ≠ "" → (∀ replyToId, req.replyToId = some replyToId →
          ∃ reply, s.db.postReplies.find? replyToId = some reply ∧ reply.postId = postId) →
        ∀ db, insertReply
          { id := env.id, postId := postId, authorPubkey := user, body := trim req.body,
            createdAt := env.now, replyToId := req.replyToId } s.db = .ok db →
          inv (updatePost postId (fun row =>
            { row with
              replyCount := row.replyCount + 1
              lastActivityAt := env.now }) (fun _ => rfl) db)) := by
  unfold createReply requirePost requireReply Db.Permits
  rw [leaves_requireForumChannel_bind hs, leaves_userPermissions_bind, leaves_require_bind hs,
    leaves_requireRow_bind hs]
  simp only [leaves_ensure_bind hs, leaves_checkReplyTo_bind hs, leaves_execute_bind hs,
    leaves_write_bind, leaves_answer, withDb_db, decide_eq_true_eq]

theorem editReply_leaves {now : Int} {req : EditReplyRequest} (hs : inv s.db) :
    LeavesDb (editReply now user channelId postId replyId req) s inv ↔
      (s.db.IsForum channelId →
        ∀ row, s.db.posts.find? postId = some row → row.channelId = channelId →
        ∀ reply, s.db.postReplies.find? replyId = some reply → reply.postId = postId →
        reply.deletedAt = none → (reply.authorPubkey = user ∨ s.db.Permits user managePosts) →
        trim req.body ≠ "" → inv (updateReply replyId (trim req.body) now s.db)) := by
  unfold editReply requirePost requireReply Db.Permits
  rw [leaves_requireForumChannel_bind hs, leaves_requireRow_bind hs]
  simp only [leaves_requireRow_bind hs, leaves_ensure_bind hs, leaves_userPermissions_bind,
    leaves_write_bind, leaves_answer, withDb_db, decide_eq_true_eq]

theorem deleteReply_leaves {now : Int} (hs : inv s.db) :
    LeavesDb (deleteReply now user channelId postId replyId) s inv ↔
      (s.db.IsForum channelId →
        ∀ row, s.db.posts.find? postId = some row → row.channelId = channelId →
        ∀ reply, s.db.postReplies.find? replyId = some reply → reply.postId = postId →
        reply.deletedAt = none → (reply.authorPubkey = user ∨ s.db.Permits user managePosts) →
          inv (updatePost postId (fun row => { row with replyCount := max 0 (row.replyCount - 1) })
            (fun _ => rfl) (updateReplyWith replyId (fun row => { row with deletedAt := some now })
              (fun _ => rfl) s.db))) := by
  unfold deleteReply requirePost requireReply Db.Permits
  rw [leaves_requireForumChannel_bind hs, leaves_requireRow_bind hs]
  simp only [leaves_requireRow_bind hs, decide_eq_true_eq]
  refine imp_congr_right fun _ => forall_congr' fun row => imp_congr_right fun _ =>
    imp_congr_right fun _ => forall_congr' fun reply => imp_congr_right fun _ =>
    imp_congr_right fun _ => ?_
  cases hdeleted : reply.deletedAt with
  | some deletedAt => exact iff_of_true hs fun h => by cases h
  | none =>
      rw [if_neg (by simp), leaves_userPermissions_bind, leaves_ensure_bind hs,
        leaves_write_bind, leaves_write_bind, leaves_announce, withDb_db, withDb_db,
        imp_iff_right rfl]

theorem markPost_leaves {f : PostRow → PostRow} {hf : ∀ row, (f row).id = row.id} (hs : inv s.db) :
    LeavesDb (markPost f hf user channelId postId) s inv ↔
      (s.db.Marks user channelId postId → inv (updatePost postId f hf s.db)) := by
  unfold markPost requirePost Db.Marks Db.Permits
  rw [leaves_requireForumChannel_bind hs, leaves_userPermissions_bind, leaves_require_bind hs,
    leaves_requireRow_bind hs]
  simp only [leaves_ensure_bind hs, leaves_write_bind, leaves_announce, withDb_db,
    decide_eq_true_eq, and_imp, forall_exists_index]

end Leaves

/-! ## The index post by post -/

/-- What the index should hold under a post. -/
def Db.indexedAt (db : Db) (postId : String) : List PostsFtsRow :=
  (db.posts.find? postId).elim [] db.indexedPost

def Db.RightAt (db : Db) (postId : String) : Prop :=
  (db.postsFts.filter (·.postId = postId)).Perm (db.indexedAt postId)

section RightAt

variable {db : Db} {postId : String}

theorem postId_of_mem_indexedPost (db : Db) (post : PostRow) :
    ∀ row ∈ db.indexedPost post, row.postId = post.id := by
  intro row hrow
  unfold Db.indexedPost at hrow
  split_ifs at hrow
  · rcases List.mem_cons.mp hrow with rfl | hreply
    · rfl
    · rcases List.mem_map.mp hreply with ⟨reply, hmem, rfl⟩
      have hlive := (List.mem_filter.mp hmem).2
      rw [decide_eq_true_iff] at hlive
      exact hlive.1
  · cases hrow

theorem indexRight_iff : db.IndexRight ↔ ∀ postId, db.RightAt postId :=
  Table.perm_flatMap_iff db.posts (postId_of_mem_indexedPost db)

/-- What stays of a list is the list if everything stays. -/
theorem filter_perm_iff {α : Type} {p : α → Bool} {as : List α} :
    (as.filter p).Perm as ↔ ∀ a ∈ as, p a = true := by
  constructor
  · intro h
    rw [← List.filter_eq_self]
    exact List.filter_sublist.eq_of_length h.length_eq
  · intro h
    rw [List.filter_eq_self.mpr h]

/-! ### Writing a post -/

section WritePost

variable {f : PostRow → PostRow} {hf : ∀ row, (f row).id = row.id}

theorem liveReplies_updatePost (other : String) :
    (updatePost postId f hf db).liveReplies other = db.liveReplies other := by
  rw [Db.liveReplies, postReplies_updatePost, Db.liveReplies]

theorem indexedPost_updatePost (post : PostRow) :
    (updatePost postId f hf db).indexedPost post = db.indexedPost post := by
  rw [Db.indexedPost, liveReplies_updatePost, Db.indexedPost]

theorem postsFts_updatePost {old : PostRow} (hold : db.posts.find? postId = some old) :
    (updatePost postId f hf db).postsFts = db.postsFts.filter (·.postId ≠ postId) ++
      if (f old).deletedAt = none then [(f old).fts] else [] := by
  have hid : old.id = postId := (Table.find?_eq_some_iff.mp hold).2
  rw [updatePost, hold]
  show db.postsFts.filter (·.postId ≠ old.id) ++ _ = _
  rw [hid]

/-- Only the rows of the post are touched. -/
theorem rightAt_updatePost_of_ne {other : String} (hne : other ≠ postId) :
    (updatePost postId f hf db).RightAt other ↔ db.RightAt other := by
  cases hold : db.posts.find? postId with
  | none => rw [updatePost, hold]
  | some old =>
      have hid : (f old).id = postId := (hf old).trans (Table.find?_eq_some_iff.mp hold).2
      have hindexed : (updatePost postId f hf db).indexedAt other = db.indexedAt other := by
        unfold Db.indexedAt
        rw [posts_updatePost, Table.find?_update]
        cases hfound : db.posts.find? other with
        | none => rfl
        | some post =>
            have hpost : post.id = other := (Table.find?_eq_some_iff.mp hfound).2
            have hother : post.id ≠ postId := by
              rw [hpost]
              exact hne
            simp [hother, indexedPost_updatePost]
      have hkept : (updatePost postId f hf db).postsFts.filter (·.postId = other) =
          db.postsFts.filter (·.postId = other) := by
        have hnew : (if (f old).deletedAt = none then [(f old).fts] else []).filter
            (·.postId = other) = [] := by
          rw [List.filter_eq_nil_iff]
          intro row hrow
          split_ifs at hrow
          · rw [List.mem_singleton.mp hrow, decide_eq_true_iff]
            show (f old).id ≠ other
            rw [hid]
            exact hne.symm
          · cases hrow
        rw [postsFts_updatePost hold, List.filter_append, hnew, List.append_nil, List.filter_filter]
        apply List.filter_congr
        intro row _
        by_cases hrow : row.postId = other
        · simp [hrow, hne]
        · simp [hrow]
      rw [Db.RightAt, hkept, hindexed, Db.RightAt]

/-- Afterwards the index holds the post and nothing else under it. -/
theorem rightAt_updatePost {old : PostRow} (hold : db.posts.find? postId = some old) :
    (updatePost postId f hf db).RightAt postId ↔
      ((f old).deletedAt = none → db.liveReplies postId = []) := by
  have hid : old.id = postId := (Table.find?_eq_some_iff.mp hold).2
  have hnew : (updatePost postId f hf db).posts.find? postId = some (f old) := by
    rw [posts_updatePost, Table.find?_update, hold]
    simp [hid]
  have hfts : (updatePost postId f hf db).postsFts.filter (·.postId = postId) =
      if (f old).deletedAt = none then [(f old).fts] else [] := by
    have hgone : (db.postsFts.filter (·.postId ≠ postId)).filter (·.postId = postId) = [] := by
      rw [List.filter_eq_nil_iff]
      intro row hrow
      simpa using (List.mem_filter.mp hrow).2
    have hkept : (if (f old).deletedAt = none then [(f old).fts] else []).filter
        (·.postId = postId) = if (f old).deletedAt = none then [(f old).fts] else [] := by
      rw [List.filter_eq_self]
      intro row hrow
      split_ifs at hrow
      · rw [List.mem_singleton.mp hrow, decide_eq_true_iff]
        exact (hf old).trans hid
      · cases hrow
    rw [postsFts_updatePost hold, List.filter_append, hgone, hkept, List.nil_append]
  rw [Db.RightAt, hfts, Db.indexedAt, hnew, Option.elim_some, indexedPost_updatePost,
    Db.indexedPost, (hf old).trans hid]
  split_ifs with hlive
  · rw [imp_iff_right hlive]
    constructor
    · intro hperm
      have hlength := hperm.length_eq
      rw [List.length_singleton, List.length_cons, List.length_map] at hlength
      exact List.eq_nil_of_length_eq_zero (by omega)
    · intro hnil
      rw [hnil]
      rfl
  · exact iff_of_true List.Perm.nil fun h => absurd h hlive

end WritePost

/-- A new post has no replies yet. -/
theorem indexRight_insertPost {row : PostRow} {db' : Db} (hinsert : insertPost row db = .ok db')
    (hlive : row.deletedAt = none) (hhome : db.RepliesHome) (h : db.IndexRight) :
    db'.IndexRight := by
  have hfree := insertPost_free hinsert
  have hnone : db.liveReplies row.id = [] := by
    rw [Db.liveReplies, List.filter_eq_nil_iff]
    intro reply hreply hmine
    rw [decide_eq_true_iff] at hmine
    have hpost := hhome reply hreply
    rw [hmine.1, hfree] at hpost
    cases hpost
  rcases Table.insert?_of_free hfree with ⟨posts, hposts, hrows⟩
  rw [insertPost, hposts] at hinsert
  dsimp only at hinsert
  split_ifs at hinsert
  cases hinsert
  show (db.postsFts ++ if row.deletedAt = none then [row.fts] else []).Perm
    (posts.rows.flatMap db.indexedPost)
  have hself : db.indexedPost row = [row.fts] := by
    rw [Db.indexedPost, if_pos hlive, hnone]
    rfl
  rw [hrows, List.flatMap_append, List.flatMap_singleton, hself, if_pos hlive]
  exact h.append_right _

/-! ### Writing a reply -/

theorem posts_insertReply {row : PostReplyRow} {db' : Db} (h : insertReply row db = .ok db') :
    db'.posts = db.posts := by
  unfold insertReply at h
  cases hreplies : db.postReplies.insert? row with
  | none => simp [hreplies] at h
  | some postReplies =>
      rw [hreplies] at h
      dsimp only at h
      split_ifs at h
      cases h
      rfl

/-- The other replies to the post that are not deleted. -/
def Db.otherReplies (db : Db) (postId replyId : String) : List PostReplyRow :=
  (db.postReplies.keep (·.id ≠ replyId)).rows.filter
    fun row => row.postId = postId ∧ row.deletedAt = none

theorem mem_otherReplies {replyId : String} {row : PostReplyRow} :
    row ∈ db.otherReplies postId replyId ↔ row ∈ db.liveReplies postId ∧ row.id ≠ replyId := by
  unfold Db.otherReplies Db.liveReplies
  rw [Table.rows_keep, List.mem_filter, List.mem_filter, List.mem_filter, decide_eq_true_iff]
  tauto

section WriteReply

variable {replyId : String} {old : PostReplyRow} {f : PostReplyRow → PostReplyRow}
  {hf : ∀ row, (f row).id = row.id}

theorem liveReplies_perm (hold : db.postReplies.find? replyId = some old) (other : String) :
    (db.liveReplies other).Perm
      ([old].filter (fun row => row.postId = other ∧ row.deletedAt = none) ++
        db.otherReplies other replyId) := by
  have hperm := (Table.perm_cons_keep hold).filter
    fun row => decide (row.postId = other ∧ row.deletedAt = none)
  rwa [← List.singleton_append, List.filter_append] at hperm

theorem liveReplies_updateReplyWith (hold : db.postReplies.find? replyId = some old)
    (other : String) :
    ((updateReplyWith replyId f hf db).liveReplies other).Perm
      ([f old].filter (fun row => row.postId = other ∧ row.deletedAt = none) ++
        db.otherReplies other replyId) := by
  have hperm := (Table.perm_update hold hf).filter
    fun row => decide (row.postId = other ∧ row.deletedAt = none)
  rw [← List.singleton_append, List.filter_append] at hperm
  unfold Db.liveReplies
  rw [postReplies_updateReplyWith]
  exact hperm

theorem postsFts_updateReplyWith (hold : db.postReplies.find? replyId = some old) :
    (updateReplyWith replyId f hf db).postsFts = (db.postsFts.filter fun row =>
        ¬ (row.postId = old.postId ∧ row.body = old.body ∧ row.title = "")) ++
      db.replyFts (f old) := by
  rw [updateReplyWith, hold]
  rfl

theorem postId_of_mem_replyFts {new : PostReplyRow} :
    ∀ row ∈ db.replyFts new, row.postId = new.postId := by
  intro row hrow
  unfold Db.replyFts at hrow
  split_ifs at hrow
  · rw [Option.mem_toList, Option.map_eq_some_iff] at hrow
    rcases hrow with ⟨post, -, rfl⟩
    rfl
  · cases hrow

theorem filter_replyFts_of_ne {new : PostReplyRow} {other : String} (hne : other ≠ new.postId) :
    (db.replyFts new).filter (·.postId = other) = [] := by
  rw [List.filter_eq_nil_iff]
  intro row hrow
  rw [decide_eq_true_iff, postId_of_mem_replyFts row hrow]
  exact hne.symm

/-- Two stores with the same index rows under a post, and with the same post and
replies up to order. -/
theorem rightAt_congr {db' : Db}
    (hfts : db'.postsFts.filter (·.postId = postId) = db.postsFts.filter (·.postId = postId))
    (hposts : db'.posts.find? postId = db.posts.find? postId)
    (hreplies : (db'.liveReplies postId).Perm (db.liveReplies postId)) :
    db'.RightAt postId ↔ db.RightAt postId := by
  have hindexed : (db'.indexedAt postId).Perm (db.indexedAt postId) := by
    unfold Db.indexedAt
    rw [hposts]
    cases hfound : db.posts.find? postId with
    | none => rfl
    | some post =>
        have hid : post.id = postId := (Table.find?_eq_some_iff.mp hfound).2
        show (db'.indexedPost post).Perm (db.indexedPost post)
        unfold Db.indexedPost
        rw [hid]
        split_ifs
        · exact (hreplies.map _).cons _
        · rfl
  rw [Db.RightAt, hfts, Db.RightAt]
  exact ⟨fun h => h.trans hindexed, fun h => h.trans hindexed.symm⟩

/-- Only the rows of the post are touched. -/
theorem rightAt_updateReplyWith_of_ne (hold : db.postReplies.find? replyId = some old)
    (hpost : (f old).postId = old.postId) {other : String} (hne : other ≠ old.postId) :
    (updateReplyWith replyId f hf db).RightAt other ↔ db.RightAt other := by
  apply rightAt_congr
  · rw [postsFts_updateReplyWith hold, List.filter_append,
      filter_replyFts_of_ne (by rwa [hpost]), List.append_nil, List.filter_filter]
    apply List.filter_congr
    intro row _
    by_cases hrow : row.postId = other
    · simp [hrow, hne]
    · simp [hrow]
  · rw [posts_updateReplyWith]
  · have hafter := @liveReplies_updateReplyWith db replyId old f hf hold other
    have hbefore := liveReplies_perm hold other
    rw [List.filter_cons_of_neg (by simp [hpost, hne.symm])] at hafter
    rw [List.filter_cons_of_neg (by simp [hne.symm])] at hbefore
    exact hafter.trans hbefore.symm

/-- Only the rows of the post are touched. -/
theorem rightAt_insertReply_of_ne {row : PostReplyRow} {db' : Db}
    (hinsert : insertReply row db = .ok db') {other : String} (hne : other ≠ row.postId) :
    db'.RightAt other ↔ db.RightAt other := by
  rcases Table.insert?_of_free (insertReply_free hinsert) with ⟨postReplies, hreplies, hrows⟩
  rw [insertReply, hreplies] at hinsert
  dsimp only at hinsert
  split_ifs at hinsert
  cases hinsert
  apply rightAt_congr
  · show (db.postsFts ++ Db.replyFts _ row).filter _ = _
    rw [List.filter_append, filter_replyFts_of_ne hne, List.append_nil]
  · rfl
  · show (postReplies.rows.filter _).Perm (db.postReplies.rows.filter _)
    rw [hrows, List.filter_append, List.filter_cons_of_neg (by simp [hne.symm]), List.filter_nil,
      List.append_nil]

/-- The text that is replaced takes every row with it that looks the same. -/
theorem rightAt_updateReplyWith (hold : db.postReplies.find? replyId = some old)
    (hpost : (f old).postId = old.postId) (hlive : old.deletedAt = none)
    (hstays : (f old).deletedAt = none) {post : PostRow}
    (hfound : db.posts.find? old.postId = some post) (h : db.RightAt old.postId) :
    (updateReplyWith replyId f hf db).RightAt old.postId ↔
      post.deletedAt = none ∧ ¬ (post.title = "" ∧ post.body = old.body) ∧
        ∀ other ∈ db.liveReplies old.postId, other.id ≠ replyId → other.body ≠ old.body := by
  have hid : post.id = old.postId := (Table.find?_eq_some_iff.mp hfound).2
  -- The rows of the post that do not look like the old text stay, and the new text is added.
  have hfts : (updateReplyWith replyId f hf db).postsFts.filter (·.postId = old.postId) =
      ((db.postsFts.filter (·.postId = old.postId)).filter fun row =>
        ¬ (row.postId = old.postId ∧ row.body = old.body ∧ row.title = "")) ++
        [(f old).fts post.channelId] := by
    have hnew : db.replyFts (f old) = [(f old).fts post.channelId] := by
      rw [Db.replyFts, if_pos hstays, hpost, hfound]
      rfl
    have hmine : ((f old).fts post.channelId).postId = old.postId := hpost
    rw [postsFts_updateReplyWith hold, hnew, List.filter_append, List.filter_filter,
      List.filter_filter, List.filter_cons_of_pos (by simp [hmine]), List.filter_nil]
    congr 1
    apply List.filter_congr
    intro row _
    rw [Bool.and_comm]
  unfold Db.RightAt at h ⊢
  rw [hfts, Db.indexedAt, posts_updateReplyWith, hfound, Option.elim_some, Db.indexedPost, hid]
  rw [Db.indexedAt, hfound, Option.elim_some, Db.indexedPost, hid] at h
  by_cases hdeleted : post.deletedAt = none
  · rw [if_pos hdeleted] at h ⊢
    rw [and_iff_right hdeleted]
    have hbefore := liveReplies_perm hold old.postId
    rw [List.filter_cons_of_pos (by simp [hlive]), List.filter_nil,
      List.singleton_append] at hbefore
    have hafter := @liveReplies_updateReplyWith db replyId old f hf hold old.postId
    rw [List.filter_cons_of_pos (by simp [hpost, hstays]), List.filter_nil,
      List.singleton_append] at hafter
    -- The row of the reply is one, and the rest is what it is compared with.
    set rest := post.fts :: (db.otherReplies old.postId replyId).map (·.fts post.channelId)
      with hrest
    have hwas : (db.postsFts.filter (·.postId = old.postId)).Perm
        (old.fts post.channelId :: rest) :=
      (h.trans ((hbefore.map _).cons _)).trans (List.Perm.swap _ _ _)
    have his : (post.fts :: ((updateReplyWith replyId f hf db).liveReplies old.postId).map
        (·.fts post.channelId)).Perm ((f old).fts post.channelId :: rest) :=
      ((hafter.map _).cons _).trans (List.Perm.swap _ _ _)
    have hstay := (hwas.filter fun row =>
      decide (¬ (row.postId = old.postId ∧ row.body = old.body ∧ row.title = ""))).append_right
        [(f old).fts post.channelId]
    rw [List.filter_cons_of_neg (by simp [PostReplyRow.fts])] at hstay
    have hstay := hstay.trans (List.perm_append_singleton _ _)
    have hiff : ((rest.filter fun row =>
        decide (¬ (row.postId = old.postId ∧ row.body = old.body ∧ row.title = ""))).Perm rest) ↔
        ¬ (post.title = "" ∧ post.body = old.body) ∧
          ∀ other ∈ db.liveReplies old.postId, other.id ≠ replyId → other.body ≠ old.body := by
      rw [filter_perm_iff, hrest, List.forall_mem_cons, List.forall_mem_map]
      refine and_congr ?_ ?_
      · simp [PostRow.fts, hid]
        tauto
      · constructor
        · intro hall other hother hne
          have hbody := hall other (mem_otherReplies.mpr ⟨hother, hne⟩)
          have hmine := (List.mem_filter.mp hother).2
          rw [decide_eq_true_iff] at hmine
          simpa [PostReplyRow.fts, hmine.1] using hbody
        · intro hall other hother
          rcases mem_otherReplies.mp hother with ⟨hmem, hne⟩
          simp [PostReplyRow.fts, hall other hmem hne]
    rw [← hiff]
    constructor
    · intro hperm
      exact (List.perm_cons _).mp ((hstay.symm.trans hperm).trans his)
    · intro hperm
      exact (hstay.trans (hperm.cons _)).trans his.symm
  · rw [if_neg hdeleted] at h ⊢
    refine iff_of_false ?_ fun hall => hdeleted hall.1
    intro hperm
    have hlength := hperm.length_eq
    simp at hlength

end WriteReply

end RightAt

/-! ## Replies have a post -/

section RepliesHome

variable {db : Db}

theorem repliesHome_updatePost {postId : String} {f : PostRow → PostRow}
    {hf : ∀ row, (f row).id = row.id} (h : db.RepliesHome) :
    (updatePost postId f hf db).RepliesHome := by
  intro reply hreply
  rw [postReplies_updatePost] at hreply
  rcases Table.has_iff.mp (h reply hreply) with ⟨post, hpost, hid⟩
  rw [posts_updatePost, Table.has_iff]
  refine ⟨_, List.mem_map_of_mem hpost, ?_⟩
  dsimp only
  split_ifs
  · rw [hf, hid]
  · exact hid

theorem repliesHome_insertPost {row : PostRow} {db' : Db} (hinsert : insertPost row db = .ok db')
    (h : db.RepliesHome) : db'.RepliesHome := by
  rcases Table.insert?_of_free (insertPost_free hinsert) with ⟨posts, hposts, hrows⟩
  rw [insertPost, hposts] at hinsert
  dsimp only at hinsert
  split_ifs at hinsert
  cases hinsert
  intro reply hreply
  exact (Table.has_of_append hrows reply.postId).mpr (.inl (h reply hreply))

theorem repliesHome_insertReply {row : PostReplyRow} {db' : Db}
    (hinsert : insertReply row db = .ok db') (h : db.RepliesHome) : db'.RepliesHome := by
  rcases Table.insert?_of_free (insertReply_free hinsert) with ⟨postReplies, hreplies, hrows⟩
  rw [insertReply, hreplies] at hinsert
  dsimp only at hinsert
  split_ifs at hinsert with hkeys
  cases hinsert
  intro reply hreply
  change reply ∈ postReplies.rows at hreply
  rw [hrows, List.mem_append, List.mem_singleton] at hreply
  rcases hreply with hreply | rfl
  · exact h reply hreply
  · exact hkeys.1

theorem repliesHome_updateReplyWith {replyId : String} {f : PostReplyRow → PostReplyRow}
    {hf : ∀ row, (f row).id = row.id} (hpost : ∀ row, (f row).postId = row.postId)
    (h : db.RepliesHome) : (updateReplyWith replyId f hf db).RepliesHome := by
  intro reply hreply
  rw [postReplies_updateReplyWith] at hreply
  rcases List.mem_map.mp hreply with ⟨old, hold, rfl⟩
  rw [posts_updateReplyWith]
  split_ifs
  · rw [hpost]
    exact h old hold
  · exact h old hold

theorem repliesHome_step (request : ForumRequest) (s : AppState) (h : s.db.RepliesHome) :
    (request.step s).db.RepliesHome := by
  cases request with
  | createPost env user channelId req =>
      apply (createPost_leaves h).mpr
      intro _ _ _ _ db hinsert
      exact repliesHome_insertPost hinsert h
  | editPost now user channelId postId req =>
      apply (editPost_leaves h).mpr
      intro _ row _ _ _ _ _
      exact repliesHome_updatePost h
  | deletePost now user channelId postId =>
      apply (deletePost_leaves h).mpr
      intro _ row _ _ _ _
      exact repliesHome_updatePost h
  | createReply env user channelId postId req =>
      apply (createReply_leaves h).mpr
      intro _ _ row _ _ _ _ _ _ db hinsert
      exact repliesHome_updatePost (repliesHome_insertReply hinsert h)
  | editReply now user channelId postId replyId req =>
      apply (editReply_leaves h).mpr
      intro _ row _ _ reply _ _ _ _ _
      exact repliesHome_updateReplyWith (fun _ => rfl) h
  | deleteReply now user channelId postId replyId =>
      apply (deleteReply_leaves h).mpr
      intro _ row _ _ reply _ _ _ _
      exact repliesHome_updatePost (repliesHome_updateReplyWith (fun _ => rfl) h)
  | pinPost user channelId postId => exact (markPost_leaves h).mpr fun _ => repliesHome_updatePost h
  | unpinPost user channelId postId =>
      exact (markPost_leaves h).mpr fun _ => repliesHome_updatePost h
  | lockPost user channelId postId =>
      exact (markPost_leaves h).mpr fun _ => repliesHome_updatePost h
  | unlockPost user channelId postId =>
      exact (markPost_leaves h).mpr fun _ => repliesHome_updatePost h

end RepliesHome

/-! ## Requests and runs -/

section Step

variable {db : Db} {postId : String}

/-- A store whose index is right but for one post, once the row of the post is
written. -/
theorem indexRight_updatePost {f : PostRow → PostRow} {hf : ∀ row, (f row).id = row.id}
    {old : PostRow} (hold : db.posts.find? postId = some old)
    (h : ∀ other, other ≠ postId → db.RightAt other) :
    (updatePost postId f hf db).IndexRight ↔
      ((f old).deletedAt = none → db.liveReplies postId = []) := by
  rw [indexRight_iff, ← @rightAt_updatePost db postId f hf old hold]
  constructor
  · exact fun hall => hall postId
  · intro hthis other
    by_cases hother : other = postId
    · rwa [hother]
    · exact (rightAt_updatePost_of_ne hother).mpr (h other hother)

/-- What marks a post does not delete it. -/
theorem indexRight_markPost {f : PostRow → PostRow} {hf : ∀ row, (f row).id = row.id}
    (hlive : ∀ row, (f row).deletedAt = row.deletedAt) {user channelId : String} {s : AppState}
    (h : s.db.IndexRight) :
    ((markPost f hf user channelId postId).run s).2.db.IndexRight ↔
      (s.db.Marks user channelId postId → s.db.liveReplies postId = []) := by
  refine Iff.trans (markPost_leaves h) (imp_congr_right fun hmarks => ?_)
  rcases hmarks.2.2 with ⟨row, hrow, -, hdeleted⟩
  rw [indexRight_updatePost hrow fun other _ => indexRight_iff.mp h other, hlive,
    imp_iff_right hdeleted]

/-- The text of a reply is replaced. -/
theorem indexRight_updateReply {replyId body : String} {now : Int} {row : PostRow}
    (hrow : db.posts.find? postId = some row) {reply : PostReplyRow}
    (hreply : db.postReplies.find? replyId = some reply) (hpost : reply.postId = postId)
    (hlive : reply.deletedAt = none) (h : db.IndexRight) :
    (updateReply replyId body now db).IndexRight ↔
      row.deletedAt = none ∧ ¬ (row.title = "" ∧ row.body = reply.body) ∧
        ∀ other ∈ db.liveReplies postId, other.id ≠ replyId → other.body ≠ reply.body := by
  have hat := indexRight_iff.mp h
  subst hpost
  have hthis := @rightAt_updateReplyWith db replyId reply
    (fun row => { row with body := body, editedAt := some now }) (fun _ => rfl) hreply
    rfl hlive hlive row hrow (hat reply.postId)
  rw [← hthis, indexRight_iff]
  constructor
  · exact fun hall => hall reply.postId
  · intro hright other
    by_cases hother : other = reply.postId
    · rw [hother]
      exact hright
    · exact (rightAt_updateReplyWith_of_ne hreply rfl hother).mpr (hat other)

/-- A reply is marked as deleted and the row of the post is written. -/
theorem indexRight_removeReply {replyId : String} {now : Int} {f : PostRow → PostRow}
    {hf : ∀ row, (f row).id = row.id} (hkept : ∀ row, (f row).deletedAt = row.deletedAt)
    {row : PostRow} (hrow : db.posts.find? postId = some row) {reply : PostReplyRow}
    (hreply : db.postReplies.find? replyId = some reply) (hpost : reply.postId = postId)
    (h : db.IndexRight) :
    (updatePost postId f hf (updateReplyWith replyId (fun row => { row with deletedAt := some now })
      (fun _ => rfl) db)).IndexRight ↔
      (row.deletedAt = none → ∀ other ∈ db.liveReplies postId, other.id = replyId) := by
  have hat := indexRight_iff.mp h
  subst hpost
  rw [← posts_updateReplyWith replyId (fun row => { row with deletedAt := some now })
    (fun _ => rfl) db] at hrow
  rw [indexRight_updatePost hrow fun other hne =>
    (rightAt_updateReplyWith_of_ne hreply rfl hne).mpr (hat other), hkept]
  refine imp_congr_right fun _ => ?_
  have hperm := @liveReplies_updateReplyWith db replyId reply
    (fun row => { row with deletedAt := some now }) (fun _ => rfl) hreply reply.postId
  rw [List.filter_cons_of_neg (by simp), List.filter_nil, List.nil_append] at hperm
  constructor
  · intro hnil other hother
    by_contra hne
    have hmem := hperm.symm.subset (mem_otherReplies.mpr ⟨hother, hne⟩)
    rw [hnil] at hmem
    cases hmem
  · intro hall
    rw [List.eq_nil_iff_forall_not_mem]
    intro other hother
    rcases mem_otherReplies.mp (hperm.subset hother) with ⟨hmem, hne⟩
    exact hne (hall other hmem)

/-- A reply is inserted and the row of its post is written. -/
theorem not_indexRight_addReply {new : PostReplyRow} {db' : Db} (hpost : new.postId = postId)
    (hinsert : insertReply new db = .ok db') (hnew : db'.postReplies.find? new.id = some new)
    (hlive : new.deletedAt = none) {f : PostRow → PostRow} {hf : ∀ row, (f row).id = row.id}
    (hkept : ∀ row, (f row).deletedAt = row.deletedAt) {row : PostRow}
    (hrow : db.posts.find? postId = some row) (hpresent : row.deletedAt = none)
    (h : db.IndexRight) : ¬ (updatePost postId f hf db').IndexRight := by
  have hat := indexRight_iff.mp h
  rw [← posts_insertReply hinsert] at hrow
  have hother : ∀ other, other ≠ postId → db'.RightAt other := by
    intro other hne
    rw [← hpost] at hne
    exact (rightAt_insertReply_of_ne hinsert hne).mpr (hat other)
  rw [indexRight_updatePost hrow hother, hkept, imp_iff_right hpresent]
  intro hnone
  rw [Db.liveReplies, List.filter_eq_nil_iff] at hnone
  exact hnone new (Table.find?_eq_some_iff.mp hnew).1 (by simp [hpost, hlive])

variable {s : AppState} {user channelId replyId : String}

theorem indexRight_editPost {now : Int} {req : EditPostRequest} (h : s.db.IndexRight) :
    ((editPost now user channelId postId req).run s).2.db.IndexRight ↔
      ((ForumRequest.editPost now user channelId postId req).Passes s.db →
        s.db.liveReplies postId = []) := by
  have hat := indexRight_iff.mp h
  refine Iff.trans (editPost_leaves h) ?_
  constructor
  · rintro hleaves ⟨hforum, row, hrow, hchannel, hlive, hmay, htitle⟩
    have hright := hleaves hforum row hrow hchannel hlive hmay htitle
    exact (indexRight_updatePost hrow fun other _ => hat other).mp hright hlive
  · intro hnone hforum row hrow hchannel hlive hmay htitle
    rw [indexRight_updatePost hrow fun other _ => hat other]
    exact fun _ => hnone ⟨hforum, row, hrow, hchannel, hlive, hmay, htitle⟩

theorem indexRight_deletePost {now : Int} (h : s.db.IndexRight) :
    ((deletePost now user channelId postId).run s).2.db.IndexRight := by
  apply (deletePost_leaves h).mpr
  intro _ row hrow _ _ _
  rw [indexRight_updatePost hrow fun other _ => indexRight_iff.mp h other]
  intro hlive
  cases hlive

/-- A reply that is accepted is gone from the index once the counter of its post is
raised. -/
theorem indexRight_createReply {env : PostEnv} {req : CreateReplyRequest} (h : s.db.IndexRight) :
    ((createReply env user channelId postId req).run s).2.db.IndexRight ↔
      ¬ (ForumRequest.createReply env user channelId postId req).Passes s.db := by
  refine Iff.trans (createReply_leaves h) ?_
  constructor
  · rintro hleaves ⟨hforum, hsend, row, hrow, hchannel, hlive, hlocked, hbody, hreplyTo, hfree⟩
    have hpost : s.db.posts.has postId = true := Table.has_of_find? hrow
    have hreplies : ∀ replyToId, req.replyToId = some replyToId →
        s.db.postReplies.has replyToId = true := by
      intro replyToId heq
      rcases hreplyTo replyToId heq with ⟨reply, hfind, -⟩
      exact Table.has_of_find? hfind
    rcases exists_insertReply
      { id := env.id, postId := postId, authorPubkey := user, body := trim req.body,
        createdAt := env.now, replyToId := req.replyToId } hpost hreplies hfree with
      ⟨db, hinsert, hreply⟩
    have hright := hleaves hforum hsend row hrow hchannel hlive hlocked hbody hreplyTo db hinsert
    refine not_indexRight_addReply ?_ hinsert hreply rfl ?_ hrow hlive h hright
    · rfl
    · exact fun _ => rfl
  · intro hrefused hforum hsend row hrow hchannel hlive hlocked hbody hreplyTo db hinsert
    exact (hrefused ⟨hforum, hsend, row, hrow, hchannel, hlive, hlocked, hbody, hreplyTo,
      insertReply_free hinsert⟩).elim

theorem indexRight_editReply {now : Int} {req : EditReplyRequest} (h : s.db.IndexRight) :
    ((editReply now user channelId postId replyId req).run s).2.db.IndexRight ↔
      ((ForumRequest.editReply now user channelId postId replyId req).Passes s.db →
        (ForumRequest.editReply now user channelId postId replyId req).Harmless s.db) := by
  refine Iff.trans (editReply_leaves h) ?_
  constructor
  · rintro hleaves ⟨hforum, ⟨row, hrow, hchannel⟩, reply, hreply, hpost, hlive, hmay, hbody⟩
    have hright := hleaves hforum row hrow hchannel reply hreply hpost hlive hmay hbody
    intro row' hrow' reply' hreply'
    rw [hrow] at hrow'
    cases hrow'
    rw [hreply] at hreply'
    cases hreply'
    exact (indexRight_updateReply hrow hreply hpost hlive h).mp hright
  · intro hharmless hforum row hrow hchannel reply hreply hpost hlive hmay hbody
    rw [indexRight_updateReply hrow hreply hpost hlive h]
    exact hharmless ⟨hforum, ⟨row, hrow, hchannel⟩, reply, hreply, hpost, hlive, hmay, hbody⟩
      row hrow reply hreply

theorem indexRight_deleteReply {now : Int} (h : s.db.IndexRight) :
    ((deleteReply now user channelId postId replyId).run s).2.db.IndexRight ↔
      ((ForumRequest.deleteReply now user channelId postId replyId).Passes s.db →
        (ForumRequest.deleteReply now user channelId postId replyId).Harmless s.db) := by
  refine Iff.trans (deleteReply_leaves h) ?_
  constructor
  · rintro hleaves ⟨hforum, ⟨row, hrow, hchannel⟩, reply, hreply, hpost, hlive, hmay⟩
    have hright := hleaves hforum row hrow hchannel reply hreply hpost hlive hmay
    intro row' hrow'
    rw [hrow] at hrow'
    cases hrow'
    refine (indexRight_removeReply ?_ hrow hreply hpost h).mp hright
    exact fun _ => rfl
  · intro hharmless hforum row hrow hchannel reply hreply hpost hlive hmay
    refine (indexRight_removeReply ?_ hrow hreply hpost h).mpr ?_
    · exact fun _ => rfl
    · exact hharmless ⟨hforum, ⟨row, hrow, hchannel⟩, reply, hreply, hpost, hlive, hmay⟩ row hrow

theorem indexRight_step_iff (request : ForumRequest) (s : AppState) (hhome : s.db.RepliesHome)
    (h : s.db.IndexRight) :
    (request.step s).db.IndexRight ↔ (request.Passes s.db → request.Harmless s.db) := by
  cases request with
  | createPost env user channelId req =>
      refine iff_of_true ?_ fun _ => trivial
      apply (createPost_leaves h).mpr
      intro _ _ _ _ db hinsert
      exact indexRight_insertPost hinsert rfl hhome h
  | editPost now user channelId postId req => exact indexRight_editPost h
  | deletePost now user channelId postId =>
      exact iff_of_true (indexRight_deletePost h) fun _ => trivial
  | createReply env user channelId postId req => exact indexRight_createReply h
  | editReply now user channelId postId replyId req => exact indexRight_editReply h
  | deleteReply now user channelId postId replyId => exact indexRight_deleteReply h
  | pinPost user channelId postId =>
      refine indexRight_markPost ?_ h
      exact fun _ => rfl
  | unpinPost user channelId postId =>
      refine indexRight_markPost ?_ h
      exact fun _ => rfl
  | lockPost user channelId postId =>
      refine indexRight_markPost ?_ h
      exact fun _ => rfl
  | unlockPost user channelId postId =>
      refine indexRight_markPost ?_ h
      exact fun _ => rfl

end Step

/-- In a run from a store with a right index the index is right in all states exactly
if every request that passes its checks finds a store in which it is harmless. -/
theorem indexRight_iff_harmless (requests : List ForumRequest) (s : AppState)
    (hhome : s.db.RepliesHome) (h : s.db.IndexRight) :
    (∀ first, first <+: requests → (runAll ForumRequest.step first s).db.IndexRight) ↔
      Along ForumRequest.step (fun request s => request.Passes s.db → request.Harmless s.db)
        requests s := by
  have hstep : ∀ (request : ForumRequest) (s : AppState), s.db.RepliesHome ∧ s.db.IndexRight →
      ((request.step s).db.RepliesHome ∧ (request.step s).db.IndexRight ↔
        (request.Passes s.db → request.Harmless s.db)) := by
    intro request s hs
    rw [and_iff_right (repliesHome_step request s hs.1)]
    exact indexRight_step_iff request s hs.1 hs.2
  rw [← Along.invariant_iff (fun s : AppState => s.db.RepliesHome ∧ s.db.IndexRight)
    hstep ⟨hhome, h⟩]
  refine forall_congr' fun first => imp_congr_right fun _ => ?_
  rw [and_iff_right]
  exact invariant_runAll (fun s : AppState => s.db.RepliesHome) repliesHome_step first hhome

/-- A hub with a forum in which nothing is written yet. -/
def ideasHub : AppState where
  db := { Db.migrated with
    users := ⟨[⟨"owner", 0, 0, .approved, none, false, 0, none, .none, none⟩,
      ⟨"alice", 1, 1, .approved, none, false, 0, none, .none, none⟩], by decide⟩
    userRoles := ⟨[⟨"owner", "builtin-owner", 0⟩, ⟨"alice", "builtin-everyone", 1⟩], by decide⟩
    channels := .single
      ⟨"ideas", "ideas", "owner", none, false, 0, none, none, none, none, .forum, 0, 0⟩ }

/-- Posts that nobody replies to. -/
def alicePostsTwice : List ForumRequest :=
  [.createPost ⟨"first", 1⟩ "alice" "ideas" ⟨"one", "text"⟩,
    .createPost ⟨"second", 2⟩ "alice" "ideas" ⟨"two", "text"⟩,
    .pinPost "owner" "ideas" "first",
    .editPost 3 "alice" "ideas" "second" ⟨none, some "words"⟩,
    .deletePost 4 "alice" "ideas" "first"]

theorem alicePostsTwice_indexRight :
    ideasHub.db.IndexRight ∧
      ∀ first, first <+: alicePostsTwice →
        (runAll ForumRequest.step first ideasHub).db.IndexRight := by
  have hempty : ideasHub.db.IndexRight := by decide +kernel
  exact ⟨hempty, (indexRight_iff_harmless alicePostsTwice ideasHub (by decide +kernel) hempty).mpr
    ⟨fun _ => trivial, fun _ => trivial,
      fun _ => (by decide +kernel : (_ : List PostReplyRow) = []),
      fun _ => (by decide +kernel : (_ : List PostReplyRow) = []), fun _ => trivial, trivial⟩⟩

/-- A post, and one reply to it. -/
def ownerReplies : List ForumRequest :=
  [.createPost ⟨"first", 1⟩ "alice" "ideas" ⟨"one", "text"⟩,
    .createReply ⟨"reply", 2⟩ "owner" "ideas" "first" ⟨"answer", none⟩]

/-- The reply is there, and the index does not have it. -/
theorem ownerReplies_not_indexRight :
    ideasHub.db.IndexRight ∧
      ¬ (runAll ForumRequest.step ownerReplies ideasHub).db.IndexRight := by
  decide +kernel

end Voxply.Hub
