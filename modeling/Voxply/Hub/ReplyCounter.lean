/-
# The reply counter of a post

A post carries the number of its replies that are not deleted.  The row of a reply
and the counter are written by separate statements: a request that creates a reply
inserts the row and then counts up, one that deletes a reply marks the row and then
counts down, but not below zero.

The counter is right whenever no request is in progress, as long as every request
that counts down has taken a reply away exactly if there is something to count down
from.  Two requests that delete the same reply, or one that deletes a reply that is
not yet counted, break that.
-/

import Voxply.Hub.ForumIndex
import Voxply.Math.Ledger

namespace Voxply.Hub

open Voxply.Math

/-! ## Requests -/

inductive ReplyRequest where
  | create (env : PostEnv) (user channelId postId : String) (req : CreateReplyRequest)
  | delete (now : Int) (user channelId postId replyId : String)
  deriving DecidableEq

namespace ReplyRequest

def postId : ReplyRequest → String
  | .create _ _ _ postId _ => postId
  | .delete _ _ _ postId _ => postId

def handler : ReplyRequest → Handler StatusCode
  | .create env user channelId postId req => do
      let answer ← createReply env user channelId postId req
      pure answer.1
  | .delete now user channelId postId replyId => deleteReply now user channelId postId replyId

end ReplyRequest

abbrev ReplyEvent := Event ReplyRequest AppState

/-- Follow a schedule of replies that are created and deleted. -/
def replyRun (moves : List (Move ReplyRequest)) (s : AppState) :
    Server ReplyRequest AppState ApiError StatusCode :=
  serve ReplyRequest.handler moves s

/-! ## The counter -/

def Db.replyCount (db : Db) (postId : String) : Int :=
  (db.posts.find? postId).elim 0 (·.replyCount)

/-- The number of replies to a post that are not deleted. -/
def Db.liveCount (db : Db) (postId : String) : Int :=
  (db.liveReplies postId).length

/-- The counter of the post is right. -/
def Db.CountRight (db : Db) (postId : String) : Prop :=
  ∀ post ∈ db.posts.find? postId, post.replyCount = db.liveCount postId

instance decidableCountRight (db : Db) (postId : String) : Decidable (db.CountRight postId) :=
  inferInstanceAs (Decidable (∀ post ∈ db.posts.find? postId,
    post.replyCount = db.liveCount postId))

/-- Nothing that concerns the post is in progress. -/
def ReplyQuiet (postId : String) (server : Server ReplyRequest AppState ApiError StatusCode) :
    Prop :=
  ∀ job request, server.request? job = some request → request.postId = postId →
    server.answer? job ≠ none

theorem replyQuiet_iff {postId : String}
    {server : Server ReplyRequest AppState ApiError StatusCode} :
    ReplyQuiet postId server ↔
      ∀ entry ∈ server.jobs, entry.1.postId = postId → entry.2.answer? ≠ none := by
  constructor
  · intro h entry hentry hmine
    rcases List.getElem?_of_mem hentry with ⟨job, hjob⟩
    have hanswer := h job entry.1 (by rw [Server.request?, hjob]; rfl) hmine
    rwa [Server.answer?, hjob, Option.bind_some] at hanswer
  · intro h job request hrequest hmine
    rcases Server.request?_eq_some_iff.mp hrequest with ⟨p, hjob⟩
    rw [Server.answer?, hjob, Option.bind_some]
    exact h (request, p) (List.mem_of_getElem? hjob) hmine

instance decidableReplyQuiet (postId : String)
    (server : Server ReplyRequest AppState ApiError StatusCode) :
    Decidable (ReplyQuiet postId server) :=
  decidable_of_iff _ replyQuiet_iff.symm

def Db.isLive (db : Db) (replyId : String) : Bool :=
  (db.postReplies.find? replyId).any (·.deletedAt = none)

/-- How much a request that deletes a reply reads before it marks it: the channel,
the post, the reply, the roles of the user and, if there are any, what they permit. -/
def deleteReads (user : String) (past : List (Sent AppState)) : ℕ :=
  if past[3]?.any fun roles => roles.before.db.rolesOf user ≠ [] then 5 else 4

/-- A request that counts down, having marked a reply in its last statement, has taken
one away exactly if the counter is not zero. -/
def ReplyRequest.CountsDownRight (request : ReplyRequest) (past : List (Sent AppState)) (db : Db) :
    Prop :=
  match request with
  | .create _ _ _ _ _ => True
  | .delete _ user _ postId replyId =>
      past.length = deleteReads user past + 1 → ∀ mark ∈ past.getLast?,
        (mark.before.db.isLive replyId = true ↔ 1 ≤ db.replyCount postId)

instance decidableCountsDownRight (past : List (Sent AppState)) (db : Db) :
    ∀ request : ReplyRequest, Decidable (request.CountsDownRight past db)
  | .create _ _ _ _ _ => inferInstanceAs (Decidable True)
  | .delete _ user _ postId replyId =>
      inferInstanceAs (Decidable (past.length = deleteReads user past + 1 →
        ∀ mark ∈ past.getLast?,
          (mark.before.db.isLive replyId = true ↔ 1 ≤ db.replyCount postId)))

/-- Everybody who counts the replies to the post down does so rightly. -/
def CountsDownRight (postId : String) (history : List ReplyEvent) : Prop :=
  ∀ pre e post, history = pre ++ e :: post → e.request.postId = postId →
    e.request.CountsDownRight (sentBy e.job pre) e.before.db

/-! ## Statements -/

/-- The row that `create_reply` inserts. -/
def newReply (env : PostEnv) (user postId : String) (req : CreateReplyRequest) : PostReplyRow where
  id := env.id
  postId := postId
  authorPubkey := user
  body := trim req.body
  createdAt := env.now
  replyToId := req.replyToId

def countUp (now : Int) (row : PostRow) : PostRow :=
  { row with replyCount := row.replyCount + 1, lastActivityAt := now }

def countDown (row : PostRow) : PostRow :=
  { row with replyCount := max 0 (row.replyCount - 1) }

def markDeleted (now : Int) (row : PostReplyRow) : PostReplyRow :=
  { row with deletedAt := some now }

theorem id_countUp (now : Int) (row : PostRow) : (countUp now row).id = row.id := rfl

theorem id_countDown (row : PostRow) : (countDown row).id = row.id := rfl

theorem id_markDeleted (now : Int) (row : PostReplyRow) : (markDeleted now row).id = row.id := rfl

/-- The last statement has left the replies as they were. -/
def Paid (past : List (Sent AppState)) : Prop :=
  ∀ last ∈ past.getLast?, last.after.db.postReplies = last.before.db.postReplies

/-- What the two handlers send. -/
inductive ReplySent : ReplyRequest → List (Sent AppState) → Sent AppState → Prop
  | aside {request : ReplyRequest} {past : List (Sent AppState)} {sent : Sent AppState}
      (hpaid : Paid past) (h : sent.after.db = sent.before.db) : ReplySent request past sent
  | insert {env : PostEnv} {user channelId postId : String} {req : CreateReplyRequest}
      {past : List (Sent AppState)} {sent : Sent AppState} (hpaid : Paid past)
      (h : sent.statement = executed (insertReply (newReply env user postId req))) :
      ReplySent (.create env user channelId postId req) past sent
  | up {env : PostEnv} {user channelId postId : String} {req : CreateReplyRequest}
      {past : List (Sent AppState)} {sent insert : Sent AppState} {db : Db}
      (hinsert : insert.statement = executed (insertReply (newReply env user postId req)))
      (hdb : insertReply (newReply env user postId req) insert.before.db = .ok db)
      (h : sent.statement = written (updatePost postId (countUp env.now) (id_countUp env.now))) :
      ReplySent (.create env user channelId postId req) (past ++ [insert]) sent
  | mark {now : Int} {user channelId postId replyId : String} {past : List (Sent AppState)}
      {sent read : Sent AppState} {reply : PostReplyRow} (hpaid : Paid past)
      (hlength : past.length = deleteReads user past) (hread : read ∈ past)
      (hstatement : read.statement = id)
      (hreply : read.before.db.postReplies.find? replyId = some reply)
      (hpost : reply.postId = postId)
      (h : sent.statement =
      written (updateReplyWith replyId (markDeleted now) (id_markDeleted now))) :
      ReplySent (.delete now user channelId postId replyId) past sent
  | down {now : Int} {user channelId postId replyId : String} {past : List (Sent AppState)}
      {sent mark read : Sent AppState} {reply : PostReplyRow}
      (hlength : past.length = deleteReads user past) (hread : read ∈ past)
      (hstatement : read.statement = id)
      (hreply : read.before.db.postReplies.find? replyId = some reply)
      (hpost : reply.postId = postId)
      (hmark : mark.statement =
      written (updateReplyWith replyId (markDeleted now) (id_markDeleted now)))
      (h : sent.statement = written (updatePost postId countDown id_countDown)) :
      ReplySent (.delete now user channelId postId replyId) (past ++ [mark]) sent

section Reading

variable {good : List (Sent AppState) → Sent AppState → Prop} {past : List (Sent AppState)}

theorem requireRow_follows {Row : Type} {find : Db → Option Row} {belongs : Row → Bool}
    {missing elsewhere : ApiError} {q : Row → List (Sent AppState) → Prop}
    (hgood : ∀ s, good past ⟨id, s⟩)
    (hpost : ∀ s row, find s.db = some row → belongs row = true → q row (past ++ [⟨id, s⟩])) :
    (requireRow find belongs missing elsewhere).Follows good q past := by
  apply follows_fetch_bind hgood
  intro s
  cases hfound : find s.db with
  | none => trivial
  | some row =>
      dsimp only
      split_ifs with hbelongs
      · exact hpost s row hfound hbelongs
      · trivial

theorem requireForumChannel_follows {channelId : String} {q : Unit → List (Sent AppState) → Prop}
    (hgood : ∀ s, good past ⟨id, s⟩) (hpost : ∀ s, q () (past ++ [⟨id, s⟩])) :
    (requireForumChannel channelId).Follows good q past := by
  apply follows_fetch_bind hgood
  intro s
  cases s.db.channels.find? channelId with
  | none => trivial
  | some row =>
      apply Prog.follows_ensure_bind
      intro _
      apply Prog.follows_ensure
      exact fun _ => hpost s

theorem checkReplyTo_follows {postId : String} {replyToId : Option String}
    {q : Unit → List (Sent AppState) → Prop} (hgood : ∀ s, good past ⟨id, s⟩)
    (hnone : q () past) (hsome : ∀ s, q () (past ++ [⟨id, s⟩])) :
    (checkReplyTo postId replyToId).Follows good q past := by
  apply Prog.follows_whenSome
  · intro replyToId _
    apply follows_fetch_bind hgood
    intro s
    apply Prog.follows_ensure
    exact fun _ => hsome s
  · exact fun _ => hnone

end Reading

theorem paid_nil : Paid [] := by
  intro last hlast
  cases hlast

theorem paid_snoc {past : List (Sent AppState)} {sent : Sent AppState}
    (h : sent.after.db.postReplies = sent.before.db.postReplies) : Paid (past ++ [sent]) := by
  intro last hlast
  rw [List.getLast?_concat, Option.mem_some_iff] at hlast
  rwa [← hlast]

theorem paid_read (past : List (Sent AppState)) (s : AppState) : Paid (past ++ [⟨id, s⟩]) :=
  paid_snoc rfl

theorem paid_counted (past : List (Sent AppState)) {postId : String} {f : PostRow → PostRow}
    {hf : ∀ row, (f row).id = row.id} (s : AppState) :
    Paid (past ++ [⟨written (updatePost postId f hf), s⟩]) :=
  paid_snoc (postReplies_updatePost postId f hf s.db)

theorem createReply_follows {env : PostEnv} {user channelId postId : String}
    {req : CreateReplyRequest} :
    (createReply env user channelId postId req).Follows
      (ReplySent (.create env user channelId postId req)) (fun _ _ => True) [] := by
  have hread : ∀ (past : List (Sent AppState)), Paid past → ∀ s : AppState,
      ReplySent (.create env user channelId postId req) past ⟨id, s⟩ :=
    fun past hpaid s => .aside hpaid rfl
  apply (requireForumChannel_follows (q := fun _ => Paid) (hread _ paid_nil) (paid_read _)).bind
  intro _ past _ hpaid
  apply (userPermissions_asked (q := fun _ => Paid) (hread _ hpaid)
    (fun s => hread _ (paid_read _ s)) (fun s _ _ _ => paid_read _ s)
    (fun _ s _ _ => paid_read _ s)).bind
  intro perms past _ hpaid
  apply Prog.follows_ofExcept_bind
  intro _ _
  apply (requireRow_follows (q := fun _ => Paid) (hread _ hpaid) (fun s _ _ _ =>
    paid_read _ s)).bind
  intro row past _ hpaid
  apply Prog.follows_ensure_bind
  intro _
  apply Prog.follows_ensure_bind
  intro _
  apply Prog.follows_ensure_bind
  intro _
  apply (checkReplyTo_follows (q := fun _ => Paid) (hread _ hpaid) hpaid (paid_read _)).bind
  intro _ past _ hpaid
  apply follows_execute_bind
  · exact fun s => .insert hpaid rfl
  intro s db hdb
  apply follows_write_bind
  · exact fun t => .up rfl hdb rfl
  intro t
  apply (requireRow_follows (q := fun _ => Paid) (hread _ (paid_counted _ t))
    (fun s _ _ _ => paid_read _ s)).bind
  intro reply past _ hpaid u
  exact ⟨.aside hpaid rfl, trivial⟩

theorem deleteReply_follows {now : Int} {user channelId postId replyId : String} :
    (deleteReply now user channelId postId replyId).Follows
      (ReplySent (.delete now user channelId postId replyId)) (fun _ _ => True) [] := by
  have hread : ∀ (past : List (Sent AppState)), Paid past → ∀ s : AppState,
      ReplySent (.delete now user channelId postId replyId) past ⟨id, s⟩ :=
    fun past hpaid s => .aside hpaid rfl
  apply (requireForumChannel_follows (q := fun _ past => ∃ s, past = [⟨id, s⟩]) (hread _ paid_nil)
    fun s => ⟨s, rfl⟩).bind
  rintro _ _ - ⟨channel, rfl⟩
  apply (requireRow_follows (q := fun _ past => ∃ s, past = [⟨id, channel⟩, ⟨id, s⟩])
    (hread _ (paid_read [] channel)) fun s _ _ _ => ⟨s, rfl⟩).bind
  rintro post _ - ⟨s, rfl⟩
  apply (requireRow_follows (q := fun reply past => ∃ t : AppState,
    t.db.postReplies.find? replyId = some reply ∧ reply.postId = postId ∧
      past = [⟨id, channel⟩, ⟨id, s⟩, ⟨id, t⟩]) (hread _ (paid_read [_] s))
    fun t reply hfound hbelongs => ⟨t, hfound, of_decide_eq_true hbelongs, rfl⟩).bind
  rintro reply _ - ⟨t, hreply, hpost, rfl⟩
  split_ifs with hdeleted
  · exact Prog.follows_ret trivial
  apply (userPermissions_asked (q := fun _ past => Paid past ∧
      past.length = deleteReads user past ∧ ⟨id, t⟩ ∈ past) (hread _ (paid_read [_, _] t))
    (fun u => hread _ (paid_read _ u)) (fun u _ hroles _ => ?_) (fun u v _ hroles => ?_)).bind
  · rintro perms past - ⟨hpaid, hlength, hmem⟩
    apply Prog.follows_ensure_bind
    intro _
    apply follows_write_bind
    · exact fun u => .mark hpaid hlength hmem rfl hreply hpost rfl
    intro u
    apply follows_write_bind
    · exact fun v => .down hlength hmem rfl hreply hpost rfl rfl
    intro v w
    exact ⟨.aside (paid_counted _ v) rfl, trivial⟩
  · refine ⟨paid_read _ u, ?_, by simp⟩
    simp [deleteReads, hroles]
  · refine ⟨paid_read _ v, ?_, by simp⟩
    simp [deleteReads, hroles]

theorem ReplyRequest.handler_follows (request : ReplyRequest) :
    request.handler.Follows (ReplySent request) (fun _ _ => True) [] := by
  cases request with
  | create env user channelId postId req =>
      apply createReply_follows.bind
      exact fun _ _ _ _ => trivial
  | delete now user channelId postId replyId => exact deleteReply_follows

/-! ## Requests that have ended owe nothing -/

/-- Once there is an answer, the last statement has left the replies as they were. -/
def Settles {A : Type} (answer : Option (Except ApiError A)) (past : List (Sent AppState)) : Prop :=
  answer ≠ none → Paid past

section Settles

variable {A B : Type} {past : List (Sent AppState)}

/-- After a part that reads, the rest starts without a debt. -/
theorem always_reading_bind {p : Handler A} {f : A → Handler B}
    (hp : p.Follows (fun _ sent => sent.statement = id) (fun _ _ => True) past) (hpaid : Paid past)
    (hf : ∀ a past, Paid past → (f a).Always Settles past) : (p >>= f).Always Settles past := by
  refine hp.always_bind Paid ?_ hpaid ?_ fun a past hpaid _ => hf a past hpaid
  · intro past sent hread _
    apply paid_snoc
    rw [Sent.after, hread]
    rfl
  · exact fun _ _ hpaid _ => hpaid

/-- Whatever is made of the returned value. -/
theorem always_settles_map {p : Handler A} (h : p.Always Settles past) (g : A → B) :
    (p >>= fun a => pure (g a)).Always Settles past := by
  change (p.bind fun a => pure (g a)).Always Settles past
  induction p generalizing past with
  | ret a => exact fun _ => h (by simp)
  | fail e => exact fun _ => h (by simp)
  | step act next ih => exact ⟨fun hnone => absurd rfl hnone, fun s => ih s (h.2 s)⟩

theorem createReply_settles {env : PostEnv} {user channelId postId : String}
    {req : CreateReplyRequest} :
    (createReply env user channelId postId req).Always Settles [] := by
  apply always_reading_bind (requireForumChannel_follows (fun _ => rfl) fun _ => trivial) paid_nil
  intro _ past hpaid
  apply always_reading_bind (userPermissions_asked (fun _ => rfl) (fun _ _ => rfl)
    (fun _ _ _ _ => trivial) fun _ _ _ _ => trivial) hpaid
  intro perms past hpaid
  apply Prog.always_ofExcept_bind
  · exact fun _ _ _ => hpaid
  intro _ _
  apply always_reading_bind (requireRow_follows (fun _ => rfl) fun _ _ _ _ => trivial) hpaid
  intro row past hpaid
  -- What the reply says does not matter here.
  generalize trim req.body = body
  apply Prog.always_ensure_bind fun _ _ => hpaid
  intro _
  apply Prog.always_ensure_bind fun _ _ => hpaid
  intro _
  apply Prog.always_ensure_bind fun _ _ => hpaid
  intro _
  apply always_reading_bind (checkReplyTo_follows (fun _ => rfl) trivial fun _ => trivial) hpaid
  intro _ past hpaid
  apply Prog.always_attempt_bind (attempted_eq _ _) fun hnone => absurd rfl hnone
  · -- An insertion that is refused has changed nothing.
    intro s e hrefused _
    apply paid_snoc
    show (executed _ s).db.postReplies = s.db.postReplies
    rw [executed]
    cases hf : insertReply _ s.db with
    | error e => rfl
    | ok db => simp [hf] at hrefused
  · intro s t _
    apply always_write_bind fun hnone => absurd rfl hnone
    intro u
    apply always_reading_bind (requireRow_follows (fun _ => rfl) fun _ _ _ _ => trivial)
      (paid_counted _ u)
    intro reply past hpaid
    exact ⟨fun hnone => absurd rfl hnone, fun v _ => paid_snoc rfl⟩

theorem deleteReply_settles {now : Int} {user channelId postId replyId : String} :
    (deleteReply now user channelId postId replyId).Always Settles [] := by
  apply always_reading_bind (requireForumChannel_follows (fun _ => rfl) fun _ => trivial) paid_nil
  intro _ past hpaid
  apply always_reading_bind (requireRow_follows (fun _ => rfl) fun _ _ _ _ => trivial) hpaid
  intro row past hpaid
  apply always_reading_bind (requireRow_follows (fun _ => rfl) fun _ _ _ _ => trivial) hpaid
  intro reply past hpaid
  split_ifs
  · exact fun _ => hpaid
  apply always_reading_bind (userPermissions_asked (fun _ => rfl) (fun _ _ => rfl)
    (fun _ _ _ _ => trivial) fun _ _ _ _ => trivial) hpaid
  intro perms past hpaid
  apply Prog.always_ensure_bind fun _ _ => hpaid
  intro _
  apply always_write_bind fun hnone => absurd rfl hnone
  intro s
  apply always_write_bind fun hnone => absurd rfl hnone
  intro t
  exact ⟨fun hnone => absurd rfl hnone, fun u _ => paid_snoc rfl⟩

theorem ReplyRequest.handler_settles (request : ReplyRequest) :
    request.handler.Always Settles [] := by
  cases request with
  | create env user channelId postId req => exact always_settles_map createReply_settles _
  | delete now user channelId postId replyId => exact deleteReply_settles

end Settles

/-! ## What the statements do to the counter and to the replies -/

section Effects

variable {db : Db} {postId : String}

theorem liveCount_updatePost {other : String} {f : PostRow → PostRow}
    {hf : ∀ row, (f row).id = row.id} :
    (updatePost other f hf db).liveCount postId = db.liveCount postId := by
  rw [Db.liveCount, liveReplies_updatePost, Db.liveCount]

theorem replyCount_updatePost_of_ne {other : String} (hne : postId ≠ other)
    {f : PostRow → PostRow} {hf : ∀ row, (f row).id = row.id} :
    (updatePost other f hf db).replyCount postId = db.replyCount postId := by
  unfold Db.replyCount
  rw [posts_updatePost, Table.find?_update]
  cases hfound : db.posts.find? postId with
  | none => rfl
  | some row =>
      have hid : row.id = postId := (Table.find?_eq_some_iff.mp hfound).2
      have hrow : row.id ≠ other := by rwa [hid]
      simp [hrow]

theorem find?_updatePost {row : PostRow} (hrow : db.posts.find? postId = some row)
    {f : PostRow → PostRow} {hf : ∀ row, (f row).id = row.id} :
    (updatePost postId f hf db).posts.find? postId = some (f row) := by
  have hid : row.id = postId := (Table.find?_eq_some_iff.mp hrow).2
  rw [posts_updatePost, Table.find?_update, hrow]
  simp [hid]

theorem replyCount_of_find? {row : PostRow} (hrow : db.posts.find? postId = some row) :
    db.replyCount postId = row.replyCount := by
  rw [Db.replyCount, hrow]
  rfl

theorem replyCount_congr {db' : Db} (h : db'.posts = db.posts) :
    db'.replyCount postId = db.replyCount postId := by
  rw [Db.replyCount, h, Db.replyCount]

theorem liveCount_congr {db' : Db} (h : db'.postReplies = db.postReplies) :
    db'.liveCount postId = db.liveCount postId := by
  rw [Db.liveCount, Db.liveReplies, h, Db.liveCount, Db.liveReplies]

theorem postReplies_insertReply {row : PostReplyRow} {db' : Db}
    (h : insertReply row db = .ok db') : db'.postReplies.rows = db.postReplies.rows ++ [row] := by
  rcases Table.insert?_of_free (insertReply_free h) with ⟨postReplies, hreplies, hrows⟩
  rw [insertReply, hreplies] at h
  dsimp only at h
  split_ifs at h
  cases h
  exact hrows

/-- A new reply is one more reply to its post. -/
theorem liveCount_insertReply {row : PostReplyRow} {db' : Db} (h : insertReply row db = .ok db')
    (hlive : row.deletedAt = none) :
    db'.liveCount postId = db.liveCount postId + if row.postId = postId then 1 else 0 := by
  unfold Db.liveCount Db.liveReplies
  rw [postReplies_insertReply h, List.filter_append, List.length_append]
  split_ifs with hpost
  · simp [hpost, hlive]
  · simp [hpost]

/-- A reply that is marked is one less, if it was not marked before. -/
theorem liveCount_markDeleted {replyId : String} {row : PostReplyRow}
    (hrow : db.postReplies.find? replyId = some row) (now : Int) :
    (updateReplyWith replyId (markDeleted now) (id_markDeleted now) db).liveCount postId =
      db.liveCount postId - if row.postId = postId ∧ db.isLive replyId = true then 1 else 0 := by
  have hlive : db.isLive replyId = true ↔ row.deletedAt = none := by
    rw [Db.isLive, hrow]
    simp
  have hafter := (@liveReplies_updateReplyWith db replyId row (markDeleted now)
    (id_markDeleted now) hrow postId).length_eq
  have hbefore := (liveReplies_perm hrow postId).length_eq
  rw [List.filter_cons_of_neg (by simp [markDeleted]), List.filter_nil, List.nil_append] at hafter
  rw [Db.liveCount, hafter, Db.liveCount, hbefore, List.length_append]
  by_cases hmine : row.postId = postId ∧ row.deletedAt = none
  · rw [List.filter_cons_of_pos (by simpa using hmine), if_pos ⟨hmine.1, hlive.mpr hmine.2⟩]
    simp
  · rw [List.filter_cons_of_neg (by simpa using hmine),
      if_neg fun h => hmine ⟨h.1, hlive.mp h.2⟩]
    simp

end Effects

/-! ## Runs -/

section Runs

variable {postId : String} {s t : AppState} {history : List ReplyEvent}

/-- Replies stay with their post. -/
theorem ReplySent.keeps_reply {request : ReplyRequest} {past : List (Sent AppState)}
    {sent : Sent AppState} (h : ReplySent request past sent) {replyId other : String}
    (hreply : ∃ row, sent.before.db.postReplies.find? replyId = some row ∧ row.postId = other) :
    ∃ row, sent.after.db.postReplies.find? replyId = some row ∧ row.postId = other := by
  rcases hreply with ⟨row, hrow, hpost⟩
  cases h with
  | aside _ h =>
      rw [h]
      exact ⟨row, hrow, hpost⟩
  | @insert env user channelId post req _ _ _ h =>
      rw [Sent.after, h]
      rcases executed_cases (insertReply (newReply env user post req)) sent.before with
        hsame | ⟨db, hdb, hafter⟩
      · rw [hsame]
        exact ⟨row, hrow, hpost⟩
      · rw [hafter, withDb_db, Table.find?_of_append (postReplies_insertReply hdb)]
        have hne : replyId ≠ (newReply env user post req).id := by
          rintro rfl
          have hfree := Table.has_eq_false_iff.mp (insertReply_free hdb)
          rcases Table.find?_eq_some_iff.mp hrow with ⟨hmem, hid⟩
          exact hfree row hmem hid
        exact ⟨row, by rw [if_neg hne, hrow], hpost⟩
  | up _ _ h =>
      rw [Sent.after, h, written, withDb_db, postReplies_updatePost]
      exact ⟨row, hrow, hpost⟩
  | mark _ _ _ _ _ _ h =>
      rw [Sent.after, h, written, withDb_db, postReplies_updateReplyWith, Table.find?_update, hrow]
      refine ⟨_, rfl, ?_⟩
      dsimp only
      split_ifs <;> exact hpost
  | down _ _ _ _ _ _ h =>
      rw [Sent.after, h, written, withDb_db, postReplies_updatePost]
      exact ⟨row, hrow, hpost⟩

/-- Posts stay, and their counters are not negative. -/
theorem ReplySent.keeps_post {request : ReplyRequest} {past : List (Sent AppState)}
    {sent : Sent AppState} (h : ReplySent request past sent)
    (hpost : ∃ row, sent.before.db.posts.find? postId = some row ∧ 0 ≤ row.replyCount) :
    ∃ row, sent.after.db.posts.find? postId = some row ∧ 0 ≤ row.replyCount := by
  rcases hpost with ⟨row, hrow, hcount⟩
  have hwrite : ∀ {other : String} {f : PostRow → PostRow} (hf : ∀ row, (f row).id = row.id),
      (0 ≤ row.replyCount → 0 ≤ (f row).replyCount) →
      ∃ row, (updatePost other f hf sent.before.db).posts.find? postId = some row ∧
        0 ≤ row.replyCount := by
    intro other f hf hnonneg
    rw [posts_updatePost, Table.find?_update, hrow]
    refine ⟨_, rfl, ?_⟩
    dsimp only
    split_ifs
    · exact hnonneg hcount
    · exact hcount
  cases h with
  | aside _ h =>
      rw [h]
      exact ⟨row, hrow, hcount⟩
  | @insert env user channelId post req _ _ _ h =>
      rw [Sent.after, h]
      rcases executed_cases (insertReply (newReply env user post req)) sent.before with
        hsame | ⟨db, hdb, hafter⟩
      · rw [hsame]
        exact ⟨row, hrow, hcount⟩
      · rw [hafter, withDb_db, posts_insertReply hdb]
        exact ⟨row, hrow, hcount⟩
  | up _ _ h =>
      rw [Sent.after, h]
      apply hwrite
      intro _
      show 0 ≤ row.replyCount + 1
      omega
  | mark _ _ _ _ _ _ h =>
      rw [Sent.after, h, written, withDb_db, posts_updateReplyWith]
      exact ⟨row, hrow, hcount⟩
  | down _ _ _ _ _ _ h =>
      rw [Sent.after, h]
      apply hwrite
      intro _
      exact le_max_left 0 _

/-- No posts are created. -/
theorem ReplySent.post_of_after {request : ReplyRequest} {past : List (Sent AppState)}
    {sent : Sent AppState} (h : ReplySent request past sent)
    (hpost : sent.before.db.posts.find? postId = none) :
    sent.after.db.posts.find? postId = none := by
  cases h with
  | aside _ h => rw [h, hpost]
  | @insert env user channelId other req _ _ _ h =>
      rw [Sent.after, h]
      rcases executed_cases (insertReply (newReply env user other req)) sent.before with
        hsame | ⟨db, hdb, hafter⟩
      · rw [hsame, hpost]
      · rw [hafter, withDb_db, posts_insertReply hdb, hpost]
  | up _ _ h =>
      rw [Sent.after, h, written, withDb_db, posts_updatePost, Table.find?_update, hpost]
      rfl
  | mark _ _ _ _ _ _ h => rw [Sent.after, h, written, withDb_db, posts_updateReplyWith, hpost]
  | down _ _ _ _ _ _ h =>
      rw [Sent.after, h, written, withDb_db, posts_updatePost, Table.find?_update, hpost]
      rfl

/-- What a request has read of a reply still holds of it. -/
theorem reply_of_read (h : Interleaving ReplySent s history t) {job : ℕ} {read : Sent AppState}
    (hread : read ∈ sentBy job history) (hstatement : read.statement = id) {replyId other : String}
    (hreply : ∃ row, read.before.db.postReplies.find? replyId = some row ∧ row.postId = other) :
    ∃ row, t.db.postReplies.find? replyId = some row ∧ row.postId = other := by
  rcases mem_sentBy.mp hread with ⟨e, he, -, rfl⟩
  apply h.kept (fun u => ∃ row, u.db.postReplies.find? replyId = some row ∧
    row.postId = other) ?_ he
  · rw [Sent.after, hstatement]
    exact hreply
  · intro other hother
    rcases h.good_of_mem hother with ⟨past, hgood⟩
    exact hgood.keeps_reply

theorem post_kept (h : Interleaving ReplySent s history t)
    (hpost : ∃ row, s.db.posts.find? postId = some row ∧ 0 ≤ row.replyCount) :
    ∃ row, t.db.posts.find? postId = some row ∧ 0 ≤ row.replyCount := by
  induction h with
  | idle => exact hpost
  | @exec history t last hrun hbefore hown hgood ih =>
      subst hbefore
      exact hgood.keeps_post ih

/-- A job without a debt. -/
theorem Paid.debt_eq {past : List (Sent AppState)} (h : Paid past) :
    debt (fun s : AppState => s.db.liveCount postId) past = 0 := by
  unfold debt
  cases hlast : past.getLast? with
  | none => rfl
  | some last =>
      show last.after.db.liveCount postId - last.before.db.liveCount postId = 0
      rw [liveCount_congr (h last hlast), sub_self]

/-- The reads of a request are its first four or five statements. -/
theorem deleteReads_snoc {user : String} {past : List (Sent AppState)}
    (hlength : past.length = deleteReads user past) (sent : Sent AppState) :
    deleteReads user (past ++ [sent]) = deleteReads user past := by
  have hfour : 3 < past.length := by
    rw [hlength, deleteReads]
    split_ifs <;> omega
  rw [deleteReads, List.getElem?_append_left hfour, deleteReads]

/-- What the statement that marks a reply has taken away. -/
theorem debt_mark (h : Interleaving ReplySent s history t) {job : ℕ} {past : List (Sent AppState)}
    {mark read : Sent AppState} (hpast : past ++ [mark] = sentBy job history) (hread : read ∈ past)
    (hstatement : read.statement = id) {now : Int} {replyId other : String} {reply : PostReplyRow}
    (hreply : read.before.db.postReplies.find? replyId = some reply) (hpost : reply.postId = other)
    (hmark : mark.statement =
      written (updateReplyWith replyId (markDeleted now) (id_markDeleted now))) :
    debt (fun s : AppState => s.db.liveCount postId) (past ++ [mark]) =
      - if other = postId ∧ mark.before.db.isLive replyId = true then 1 else 0 := by
  have hall : past ++ [mark] <+: sentBy job history := by rw [hpast]
  rcases exists_event hall with ⟨pre, e, post, hsplit, rfl, rfl, hpre⟩
  have hrun := (h.split hsplit).1
  rw [← hpre] at hread
  rcases reply_of_read hrun hread hstatement ⟨reply, hreply, hpost⟩ with ⟨row, hrow, hmine⟩
  rw [debt_snoc, Sent.after, hmark, written, withDb_db, liveCount_markDeleted hrow, hmine]
  omega

/-- Every statement pays for the one before it, as long as those that count down do
so rightly. -/
theorem pays_of_countsDownRight (h : Interleaving ReplySent s history t)
    (hpost : ∃ row, s.db.posts.find? postId = some row ∧ 0 ≤ row.replyCount)
    (hright : CountsDownRight postId history) :
    Pays (fun s : AppState => s.db.liveCount postId) (fun s => s.db.replyCount postId) history := by
  intro pre e post hsplit
  rcases h.split hsplit with ⟨hrun, hgood, -⟩
  have hdown := hright pre e post hsplit
  rcases post_kept hrun hpost with ⟨row, hrow, hcount⟩
  show e.after.db.replyCount postId - e.before.db.replyCount postId = _
  have hsame : ∀ {db : Db}, db.posts = e.before.db.posts →
      db.replyCount postId - e.before.db.replyCount postId = 0 := by
    intro db hposts
    rw [replyCount_congr hposts, sub_self]
  generalize hpast : sentBy e.job pre = past at hgood hdown
  generalize e.request = request at hgood hdown
  cases hgood with
  | aside hpaid h =>
      rw [hpaid.debt_eq]
      exact hsame (by rw [h])
  | @insert env user channelId other req _ _ hpaid h =>
      rw [hpaid.debt_eq, Sent.after, h]
      rcases executed_cases (insertReply (newReply env user other req)) e.before with
        hfailed | ⟨db, hdb, hafter⟩
      · rw [hfailed]
        exact hsame rfl
      · rw [hafter]
        exact hsame (posts_insertReply hdb)
  | @up env user channelId other req past' _ insert db hinsert hdb h =>
      have hadded : insert.after = insert.before.withDb db := by
        rw [Sent.after, hinsert, executed_of_ok hdb]
      rw [debt_snoc, hadded, withDb_db, liveCount_insertReply hdb rfl, Sent.after, h,
        written, withDb_db]
      show _ = _ + (if other = postId then 1 else 0) - _
      split_ifs with hother
      · subst hother
        rw [replyCount_of_find? hrow, replyCount_of_find? (find?_updatePost hrow)]
        show row.replyCount + 1 - _ = _
        omega
      · rw [replyCount_updatePost_of_ne (Ne.symm hother)]
        omega
  | mark hpaid _ _ _ _ _ h =>
      rw [hpaid.debt_eq, Sent.after, h]
      exact hsame (posts_updateReplyWith ..)
  | @down now user channelId other replyId past' _ mark read reply hlength hread hstatement hreply
      hmine hmark h =>
      rw [debt_mark hrun hpast.symm hread hstatement hreply hmine hmark, Sent.after, h, written,
        withDb_db]
      by_cases hother : other = postId
      · subst hother
        have hiff : mark.before.db.isLive replyId = true ↔ 1 ≤ row.replyCount := by
          rw [← replyCount_of_find? hrow]
          apply hdown rfl
          · rw [deleteReads_snoc hlength, List.length_append, hlength]
            rfl
          · rw [List.getLast?_concat]
            rfl
        rw [replyCount_of_find? hrow, replyCount_of_find? (find?_updatePost hrow)]
        show max 0 (row.replyCount - 1) - _ = _
        by_cases hlive : mark.before.db.isLive replyId = true
        · have hone := hiff.mp hlive
          rw [if_pos ⟨rfl, hlive⟩]
          omega
        · have hzero : ¬ 1 ≤ row.replyCount := fun hone => hlive (hiff.mpr hone)
          rw [if_neg fun h => hlive h.2]
          omega
      · rw [replyCount_updatePost_of_ne (Ne.symm hother), if_neg fun h => hother h.1]
        omega

/-- A request about another post does not touch the replies to this one. -/
theorem liveCount_of_ne (h : Interleaving ReplySent s history t) {pre post : List ReplyEvent}
    {e : ReplyEvent} (hsplit : history = pre ++ e :: post) (hne : e.request.postId ≠ postId) :
    e.after.db.liveCount postId = e.before.db.liveCount postId := by
  rcases h.split hsplit with ⟨hrun, hgood, -⟩
  generalize hpast : sentBy e.job pre = past at hgood
  generalize e.request = request at hgood hne
  cases hgood with
  | aside _ h => rw [h]
  | @insert env user channelId other req _ _ _ h =>
      rw [Sent.after, h]
      rcases executed_cases (insertReply (newReply env user other req)) e.before with
        hfailed | ⟨db, hdb, hafter⟩
      · rw [hfailed]
      · have hother : (newReply env user other req).postId ≠ postId := hne
        rw [hafter, withDb_db, liveCount_insertReply hdb rfl, if_neg hother, add_zero]
  | up _ _ h =>
      rw [Sent.after, h, written, withDb_db, liveCount_updatePost]
  | @mark now user channelId other replyId _ _ read reply _ _ hread hstatement hreply hmine h =>
      rw [← hpast] at hread
      rcases reply_of_read hrun hread hstatement ⟨reply, hreply, hmine⟩ with ⟨row, hrow, hother⟩
      rw [Sent.after, h, written, withDb_db, liveCount_markDeleted hrow,
        if_neg fun h => hne (hother.symm.trans h.1), sub_zero]
  | down _ _ _ _ _ _ h =>
      rw [Sent.after, h, written, withDb_db, liveCount_updatePost]

theorem no_post_kept (h : Interleaving ReplySent s history t)
    (hnone : s.db.posts.find? postId = none) : t.db.posts.find? postId = none := by
  induction h with
  | idle => exact hnone
  | @exec history t last hrun hbefore hown hgood ih =>
      subst hbefore
      exact hgood.post_of_after ih

theorem replyRun_sound (moves : List (Move ReplyRequest)) (s : AppState) :
    (replyRun moves s).Sound ReplyRequest.handler ReplySent (fun _ _ _ => True) s :=
  Server.sound_serve ReplyRequest.handler_follows moves s

/-- Nobody owes anything to a post that nothing in progress is about. -/
theorem debt_of_quiet {moves : List (Move ReplyRequest)}
    (hquiet : ReplyQuiet postId (replyRun moves s)) (job : ℕ) :
    debt (fun s : AppState => s.db.liveCount postId)
    (sentBy job (replyRun moves s).history) = 0 := by
  have hsound := replyRun_sound moves s
  cases hrequest : (replyRun moves s).request? job with
  | none =>
      have hjob : (replyRun moves s).jobs.length ≤ job := by
        simpa [Server.request?] using hrequest
      rw [hsound.attached.sentBy_eq_nil hjob, debt_nil]
  | some request =>
      by_cases hmine : request.postId = postId
      · have hsettles : Settles ((replyRun moves s).answer? job)
            (sentBy job (replyRun moves s).history) :=
          Server.always_serve ReplyRequest.handler_follows ReplyRequest.handler_settles
            moves s hrequest
        exact (hsettles (hquiet job request hrequest hmine)).debt_eq
      · rcases List.eq_nil_or_concat (sentBy job (replyRun moves s).history) with
          hnil | ⟨past, last, hpast⟩
        · rw [hnil, debt_nil]
        · have hall : past ++ [last] <+: sentBy job (replyRun moves s).history := by
            rw [hpast, List.concat_eq_append]
          rcases exists_event hall with ⟨pre, e, post, hsplit, rfl, rfl, -⟩
          have hsame := hsound.request?_eq (e := e) (by rw [hsplit]; simp)
          rw [hrequest] at hsame
          cases hsame
          rw [hpast, List.concat_eq_append, debt_snoc,
            liveCount_of_ne hsound.run hsplit hmine, sub_self]

end Runs

/-- Whenever no request about a post is in progress, its counter is right, if it was
right at first and everybody who has counted down did so rightly. -/
theorem countRight_of_countsDownRight (moves : List (Move ReplyRequest)) (s : AppState)
    (postId : String) (hstart : s.db.CountRight postId)
    (hright : CountsDownRight postId (replyRun moves s).history)
    (hquiet : ReplyQuiet postId (replyRun moves s)) :
    (replyRun moves s).state.db.CountRight postId := by
  have hsound := replyRun_sound moves s
  have hrun := hsound.run
  intro post hpost
  cases hfound : s.db.posts.find? postId with
  | none =>
      rw [no_post_kept hrun hfound] at hpost
      cases hpost
  | some row =>
      have hcount : row.replyCount = s.db.liveCount postId := hstart row hfound
      have hnonneg : 0 ≤ row.replyCount := by
        rw [hcount, Db.liveCount]
        omega
      have hpays := pays_of_countsDownRight hrun ⟨row, hfound, hnonneg⟩ hright
      have hequal : s.db.replyCount postId = s.db.liveCount postId := by
        rw [replyCount_of_find? hfound, hcount]
      rw [← replyCount_of_find? hpost]
      exact hrun.settled hpays (fun e he => hsound.attached.known_lt he)
        (debt_of_quiet hquiet) hequal

/-- The hub with a post that has two replies. -/
def repliedHub : AppState where
  db := { ideasHub.db with
    posts := ⟨[⟨"post", "ideas", "alice", "title", "body", 1, none, false, false, 2, 3, none⟩],
      by decide⟩
    postReplies := ⟨[⟨"first", "post", "alice", "one", 2, none, none, none⟩,
      ⟨"second", "post", "alice", "two", 3, none, none, none⟩], by decide⟩ }

/-- The owner replies while alice deletes a reply of hers. -/
def replyMeetsDelete : List (Move ReplyRequest) :=
  [.start (.create ⟨"third", 4⟩ "owner" "ideas" "post" ⟨"three", none⟩),
    .start (.delete 5 "alice" "ideas" "post" "first")] ++
    (List.replicate 8 [.exec 0, .exec 1]).flatten

theorem replyMeetsDelete_countRight :
    (replyRun replyMeetsDelete repliedHub).state.db.CountRight "post" :=
  countRight_of_countsDownRight replyMeetsDelete repliedHub "post" (by decide +kernel)
    (forall_split_iff.mpr (by decide +kernel)) (by decide +kernel)

/-- Alice deletes one reply in two tabs at once. -/
def deletedTwice : List (Move ReplyRequest) :=
  [.start (.delete 5 "alice" "ideas" "post" "first"),
    .start (.delete 5 "alice" "ideas" "post" "first")] ++
    (List.replicate 8 [.exec 0, .exec 1]).flatten

/-- One reply is left, and the counter says that there is none. -/
theorem deletedTwice_not_countRight :
    repliedHub.db.CountRight "post" ∧ ReplyQuiet "post" (replyRun deletedTwice repliedHub) ∧
      ¬ (replyRun deletedTwice repliedHub).state.db.CountRight "post" := by
  decide +kernel

end Voxply.Hub
