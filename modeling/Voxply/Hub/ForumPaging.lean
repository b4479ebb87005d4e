/-
# Reading a forum in pages

`list_posts` and `get_post` answer a page and a cursor for the next one.  Posts are listed
with the pinned ones in front, but the cursor names the last activity and the identifier
only, so what is beyond it may lie before it in the listing.  Replies are listed by time
and identifier, but those beyond a reply are the ones of a later second.
-/

import Voxply.Hub.Posts
import Voxply.Math.Paging
import Mathlib.Data.Prod.Lex
import Mathlib.Data.String.Basic
import Mathlib.Order.BooleanAlgebra.Defs

namespace Voxply.Hub

open Voxply.Math

/-! ## Requests -/

structure PostListParams where
  cursor : Option String := none
  limit : Option Int64 := none
  deriving DecidableEq

structure ReplyListParams where
  after : Option String := none
  limit : Option Int64 := none
  deriving DecidableEq

structure PostListResponse where
  posts : List PostSummary
  cursor : Option String
  deriving DecidableEq

/-- A post with a page of its replies. -/
structure PostThread extends PostDetail where
  replies : List ReplyView
  replyCursor : Option String
  deriving DecidableEq

/-! ## Pages -/

/-- `limit.unwrap_or(50).min(100)`. Adding one to it does not overflow. -/
def pageLimit (limit : Option Int64) : Int :=
  min ((limit.map Int64.toInt).getD 50) 100

/-- `LIMIT ?`, where a negative limit is none; and `take(limit as usize)`, where a negative
one becomes larger than any length. -/
def limitRows {A : Type} (limit : Int) (rows : List A) : List A :=
  if limit < 0 then rows else rows.take limit.toNat

/-- The page that is made of the rows selected, and its last row if there are more. -/
def turnPage {A : Type} (limit : Int) (selected : List A) : List A × Option A :=
  let rows := limitRows limit selected
  (rows, if limit < selected.length then rows.getLast? else none)

/-! ## Cursors -/

def invalidCursor : ApiError :=
  ⟨.badRequest, "invalid_cursor"⟩

/-- `splitn(2, ':')` has two parts, and the first is a time. -/
def parseCursor (cursor : String) : Except ApiError (Int × String) :=
  match cursor.toList.dropWhile (· ≠ ':') with
  | [] => .error invalidCursor
  | _ :: id =>
      match parseSigned (2 ^ 63) (String.ofList (cursor.toList.takeWhile (· ≠ ':'))) with
      | none => .error invalidCursor
      | some ts => .ok (ts, String.ofList id)

/-- The cursor that a post is given. -/
def PostRow.cursor (row : PostRow) : String :=
  toString row.lastActivityAt ++ ":" ++ row.id

/-! ## Queries -/

/-- `last_activity_at < ? OR (last_activity_at = ? AND id < ?)`. -/
def PostRow.activeBefore (row : PostRow) (cursor : Int × String) : Bool :=
  row.lastActivityAt < cursor.1 ∨ (row.lastActivityAt = cursor.1 ∧ row.id < cursor.2)

/-- `is_pinned`, `last_activity_at` and `id`. -/
def PostRow.rank (row : PostRow) : Bool ×ₗ Int ×ₗ String :=
  toLex (row.isPinned, toLex (row.lastActivityAt, row.id))

/-- `ORDER BY is_pinned DESC, last_activity_at DESC, id DESC`. -/
def inListingOrder (rows : List PostRow) : List PostRow :=
  rows.insertionSort fun a b => b.rank ≤ a.rank

/-- The posts of a channel that are not deleted. -/
def Db.livePosts (db : Db) (channelId : String) : List PostRow :=
  db.posts.rows.filter fun row => row.channelId = channelId ∧ row.deletedAt = none

/-- The rows that `list_posts` selects. -/
def Db.selectPosts (db : Db) (channelId : String) (cursor : Option (Int × String)) (limit : Int) :
    List PostRow :=
  limitRows limit (inListingOrder ((db.livePosts channelId).filter fun row =>
    cursor.all row.activeBefore))

def PostReplyRow.rank (row : PostReplyRow) : Int ×ₗ String :=
  toLex (row.createdAt, row.id)

/-- `ORDER BY created_at ASC, id ASC`. -/
def inReplyOrder (rows : List PostReplyRow) : List PostReplyRow :=
  rows.insertionSort fun a b => a.rank ≤ b.rank

def Db.repliesTo (db : Db) (postId : String) : List PostReplyRow :=
  db.postReplies.rows.filter (·.postId = postId)

/-- The rows that `get_post` selects. Nothing is later than an unknown reply. -/
def Db.selectReplies (db : Db) (postId : String) (after : Option String) (limit : Int) :
    List PostReplyRow :=
  limitRows limit (inReplyOrder ((db.repliesTo postId).filter fun row =>
    after.all fun afterId => (db.postReplies.find? afterId).any fun a =>
      a.createdAt < row.createdAt))

/-! ## Handlers -/

/-- `list_posts`. -/
def listPosts (user channelId : String) (params : PostListParams) : Handler PostListResponse := do
  requireForumChannel channelId
  let perms ← userPermissions user
  let limit := pageLimit params.limit
  let cursor ← .ofExcept (params.cursor.elim (.ok none) fun text => (parseCursor text).map some)
  let selected ← fetch (·.selectPosts channelId cursor (limit + 1))
  let (rows, last) := turnPage limit selected
  pure ⟨rows.map (·.toSummary (perms.has managePosts)), last.map (·.cursor)⟩

/-- `get_post`. -/
def getPost (user channelId postId : String) (params : ReplyListParams) : Handler PostThread := do
  requireForumChannel channelId
  let perms ← userPermissions user
  let row ← requirePost channelId postId
  let limit := pageLimit params.limit
  let selected ← fetch (·.selectReplies postId params.after (limit + 1))
  let (rows, last) := turnPage limit selected
  pure
    { summary := row.toSummary (perms.has managePosts)
      body := if row.deletedAt.isSome then none else some row.body
      replies := rows.map (·.toView (perms.has managePosts))
      replyCursor := last.map (·.id) }

/-! ## Texts -/

/-- Digits that are read one after the other. -/
theorem foldl_digits {chars : List Char} (h : ∀ c ∈ chars, c.isDigit = true) (n : ℕ) :
    chars.foldl (fun acc c => acc.bind fun n =>
        if c.isDigit then some (n * 10 + (c.toNat - 48)) else none) (some n) =
      some (Nat.ofDigitChars 10 chars n) := by
  induction chars generalizing n with
  | nil => rfl
  | cons c rest ih =>
      rw [List.foldl_cons, Option.bind_some, if_pos (h c List.mem_cons_self),
        ih fun c hc => h c (List.mem_cons_of_mem _ hc), Nat.ofDigitChars_cons]
      congr 2
      exact congrArg (· + _) (Nat.mul_comm n 10)

theorem digitsVal_toDigits (n : ℕ) : digitsVal (Nat.toDigits 10 n) = some n := by
  have hdigits : ∀ c ∈ Nat.toDigits 10 n, c.isDigit = true := fun c hc =>
    Nat.isDigit_of_mem_toDigits (by decide) (by decide) hc
  unfold digitsVal
  split
  · exact absurd (by assumption) Nat.toDigits_ne_nil
  · rw [foldl_digits hdigits, Nat.ofDigitChars_ten_toDigits]

/-- The digits of a time, after its sign. -/
theorem toList_toString (i : Int) :
    (toString i).toList =
      if 0 ≤ i then Nat.toDigits 10 i.toNat else '-' :: Nat.toDigits 10 (-i).toNat := by
  rw [Int.toString_eq_repr, Int.repr_eq_if]
  split_ifs
  · exact Nat.toList_repr
  · rw [String.toList_append, Nat.toList_repr]
    rfl

theorem parseUnsigned_ofList_toDigits (bound n : ℕ) :
    parseUnsigned bound (String.ofList (Nat.toDigits 10 n)) = (some n).filter (· < bound) := by
  unfold parseUnsigned
  rw [String.toList_ofList]
  split
  · rename_i rest hplus
    have hdigit : ('+' : Char).isDigit = true := by
      apply Nat.isDigit_of_mem_toDigits (b := 10) (n := n) (by decide) (by decide)
      rw [hplus]
      exact List.mem_cons_self
    exact absurd hdigit (by decide)
  · rw [digitsVal_toDigits]

/-- A time in range is read back as it was written. -/
theorem parseSigned_toString {bound : ℕ} {i : Int} (hlow : -(bound : Int) ≤ i) (hhigh : i < bound) :
    parseSigned bound (toString i) = some i := by
  have htext := toList_toString i
  unfold parseSigned
  by_cases hsign : 0 ≤ i
  · rw [if_pos hsign] at htext
    split
    · rename_i rest hminus
      have hdigit : ('-' : Char).isDigit = true := by
        apply Nat.isDigit_of_mem_toDigits (b := 10) (n := i.toNat) (by decide) (by decide)
        rw [← htext, hminus]
        exact List.mem_cons_self
      exact absurd hdigit (by decide)
    · have hofList : toString i = String.ofList (Nat.toDigits 10 i.toNat) := by
        rw [← htext, String.ofList_toList]
      have hlt : i.toNat < bound := by omega
      rw [hofList, parseUnsigned_ofList_toDigits, Option.filter_some, if_pos (by simpa using hlt),
        Option.map_some, Int.ofNat_eq_natCast, Int.toNat_of_nonneg hsign]
  · rw [if_neg hsign] at htext
    have hle : (-i).toNat ≤ bound := by omega
    rw [htext]
    show Option.map _ (Option.filter _ (digitsVal (Nat.toDigits 10 (-i).toNat))) = _
    rw [digitsVal_toDigits, Option.filter_some, if_pos (by simpa using hle), Option.map_some,
      Int.ofNat_eq_natCast, Int.toNat_of_nonneg (by omega), Int.neg_neg]

/-- The text of a time has no colon. -/
theorem ne_colon_of_mem_toString {i : Int} {c : Char} (hc : c ∈ (toString i).toList) : c ≠ ':' := by
  have hdigit {n : ℕ} (h : c ∈ Nat.toDigits 10 n) : c ≠ ':' := by
    rintro rfl
    exact absurd (Nat.isDigit_of_mem_toDigits (b := 10) (by decide) (by decide) h) (by decide)
  rw [toList_toString] at hc
  split_ifs at hc
  · exact hdigit hc
  · rcases List.mem_cons.mp hc with rfl | hc
    · decide
    · exact hdigit hc

/-- A cursor is read back as the time and the identifier that it was made of. -/
theorem parseCursor_cursor {row : PostRow} (hlow : -2 ^ 63 ≤ row.lastActivityAt)
    (hhigh : row.lastActivityAt < 2 ^ 63) :
    parseCursor row.cursor = .ok (row.lastActivityAt, row.id) := by
  have htext : row.cursor.toList =
      (toString row.lastActivityAt).toList ++ ':' :: row.id.toList := by
    rw [PostRow.cursor, String.toList_append, String.toList_append, List.append_assoc]
    rfl
  have htime : ∀ c ∈ (toString row.lastActivityAt).toList, decide (c ≠ ':') = true :=
    fun c hc => decide_eq_true (ne_colon_of_mem_toString hc)
  have hdrop : row.cursor.toList.dropWhile (· ≠ ':') = ':' :: row.id.toList := by
    rw [htext, List.dropWhile_append_of_pos htime]
    rfl
  have htake : row.cursor.toList.takeWhile (· ≠ ':') = (toString row.lastActivityAt).toList := by
    rw [htext, List.takeWhile_append_of_pos htime]
    simp
  unfold parseCursor
  rw [hdrop, htake]
  dsimp only
  rw [String.ofList_toList, parseSigned_toString (by simpa using hlow) (by simpa using hhigh)]
  dsimp only
  rw [String.ofList_toList]

/-! ## Page by page -/

section Listing

variable {A : Type} {listed : List A} {beyond : A → A → Bool} {limit : Int}

/-- What is answered from a cursor on. -/
def Pages (listed : List A) (beyond : A → A → Bool) (limit : Int) (cursor : Option A)
    (rows : List A) (following : Option A) : Prop :=
  turnPage limit (limitRows (limit + 1) (rowsBeyond listed beyond cursor)) = (rows, following)

/-- The numbers of rows after which a page ends and a cursor is given. Without a limit that
is the end of the listing. -/
def PageEnd (limit : Int) (total k : ℕ) : Prop :=
  k = total ∧ 0 < total ∧ limit < 0 ∨ ∃ i, k = (i + 1) * limit.toNat ∧ k < total ∧ 0 ≤ limit

/-- The length that the pages of a listing have. -/
def pageLength (limit : Int) (total : ℕ) : ℕ :=
  if limit < 0 then total + 1 else limit.toNat

theorem turnPage_limitRows (hlimit : limit ≠ 0 ∧ limit ≠ -1) {total : ℕ} {rows : List A}
    (hrows : rows.length ≤ total) :
    turnPage limit (limitRows (limit + 1) rows) =
      (rows.take (pageLength limit total),
        if limit < rows.length then (rows.take (pageLength limit total)).getLast? else none) := by
  unfold turnPage pageLength
  by_cases hneg : limit < 0
  · have hselected : limitRows (limit + 1) rows = rows := if_pos (by omega)
    have hall : rows.take (total + 1) = rows := List.take_of_length_le (by omega)
    rw [hselected, if_pos hneg, hall]
    dsimp only
    rw [limitRows, if_pos hneg]
  · have hselected : limitRows (limit + 1) rows = rows.take (limit.toNat + 1) := by
      rw [limitRows, if_neg (by omega)]
      congr 1
      omega
    have hpage : limitRows limit (rows.take (limit.toNat + 1)) = rows.take limit.toNat := by
      rw [limitRows, if_neg hneg, List.take_take]
      congr 1
      omega
    have hmore : limit < (rows.take (limit.toNat + 1)).length ↔ limit < rows.length := by
      rw [List.length_take]
      omega
    rw [hselected, if_neg hneg]
    dsimp only
    rw [hpage]
    simp only [hmore]

theorem length_rowsBeyond_le (cursor : Option A) :
    (rowsBeyond listed beyond cursor).length ≤ listed.length := by
  cases cursor with
  | none => exact le_rfl
  | some a => exact List.length_filter_le _ _

theorem pages_iff_turns (hlimit : limit ≠ 0 ∧ limit ≠ -1) :
    Pages listed beyond limit =
      Turns listed beyond (pageLength limit listed.length) fun m => decide (limit < m) := by
  funext cursor rows following
  rw [Pages, turnPage_limitRows hlimit (length_rowsBeyond_le cursor), Prod.mk.injEq,
    Turns, eq_iff_iff]
  simp only [decide_eq_true_eq]
  constructor
  · rintro ⟨rfl, rfl⟩
    exact ⟨rfl, rfl⟩
  · rintro ⟨rfl, rfl⟩
    exact ⟨rfl, rfl⟩

theorem endsAt_of_length_le {k : ℕ} (hk : listed.length ≤ k) :
    EndsAt listed beyond k ↔ EndsAt listed beyond listed.length := by
  unfold EndsAt
  rw [List.take_of_length_le hk, List.drop_of_length_le hk, List.take_length, List.drop_length]

/-- The pages make up the listing exactly if every page ends well that ends with a cursor. -/
theorem pages_walk_iff (hlimit : limit ≠ 0 ∧ limit ≠ -1) (hnodup : listed.Nodup)
    (htrans : ∀ a b c, beyond a b = true → beyond b c = true → beyond a c = true) :
    (∃ pages, Walk (Pages listed beyond limit) none pages ∧ pages.flatten = listed) ↔
      ∀ k, PageEnd limit listed.length k → EndsAt listed beyond k := by
  have hn : 0 < pageLength limit listed.length := by
    unfold pageLength
    split_ifs <;> omega
  rw [pages_iff_turns hlimit, walk_iff hnodup hn (fun m hm => ?_) htrans]
  · simp only [decide_eq_true_eq]
    by_cases hneg : limit < 0
    · rw [pageLength, if_pos hneg]
      constructor
      · rintro h k (⟨rfl, hpos, -⟩ | ⟨i, -, -, hge⟩)
        · have hend := h 0 (by omega) (by omega)
          exact (endsAt_of_length_le (by omega)).mp hend
        · omega
      · intro h i hi _
        have hend := h listed.length (.inl ⟨rfl, by omega, hneg⟩)
        apply (endsAt_of_length_le _).mpr hend
        exact (Nat.le_succ _).trans (Nat.le_add_left _ _)
    · rw [pageLength, if_neg hneg]
      constructor
      · rintro h k (⟨-, -, hlt⟩ | ⟨i, rfl, hk, hge⟩)
        · omega
        · rw [Nat.succ_mul] at hk ⊢
          exact h i (by omega) (by omega)
      · intro h i hi hmore
        rw [← Nat.succ_mul]
        exact h _ (.inr ⟨i, rfl, by rw [Nat.succ_mul]; omega, by omega⟩)
  · unfold pageLength at hm
    split_ifs at hm <;> exact decide_eq_true (by omega)

/-- The same of views of the rows, if rows can be told apart by their views. -/
theorem rendered_pages_iff {B : Type} {rendered : Option String → List B → Option String → Prop}
    {encode : A → String} {render : A → B} (hlimit : limit ≠ 0 ∧ limit ≠ -1) (hnodup : listed.Nodup)
    (htrans : ∀ a b c, beyond a b = true → beyond b c = true → beyond a c = true)
    (hrender : ∀ a ∈ listed, ∀ b ∈ listed, render a = render b → a = b)
    (h : ∀ cursor, (∀ a ∈ cursor, a ∈ listed) → ∀ views following,
      rendered (cursor.map encode) views following ↔
        ∃ rows next, Pages listed beyond limit cursor rows next ∧ views = rows.map render ∧
          following = next.map encode) :
    (∃ pages, Walk rendered none pages ∧ pages.flatten = listed.map render) ↔
      ∀ k, PageEnd limit listed.length k → EndsAt listed beyond k := by
  rw [← pages_walk_iff hlimit hnodup htrans]
  rw [pages_iff_turns hlimit] at h ⊢
  exact rendered_walk_iff htrans hrender h

theorem pageLimit_le (limit : Option Int64) : pageLimit limit ≤ 100 :=
  min_le_right _ _

/-- A page is no longer than its limit and than what there is. -/
theorem length_turnPage_le (selected : List A) :
    (turnPage limit selected).1.length ≤ selected.length ∧
      (0 ≤ limit → ((turnPage limit selected).1.length : Int) ≤ limit) := by
  unfold turnPage limitRows
  dsimp only
  split_ifs with hneg
  · exact ⟨le_rfl, fun hge => by omega⟩
  · rw [List.length_take]
    exact ⟨Nat.min_le_right _ _, fun hge => by omega⟩

theorem length_limitRows_le (limit : Int) (rows : List A) :
    (limitRows limit rows).length ≤ rows.length := by
  unfold limitRows
  split_ifs
  · exact le_rfl
  · exact List.length_take_le' _ _

/-- No page is made and no cursor is given. -/
theorem turnPage_of_empty (hlimit : limit = 0 ∨ limit = -1) (rows : List A) :
    turnPage limit (limitRows (limit + 1) rows) = ([], none) := by
  rcases hlimit with rfl | rfl
  · unfold turnPage limitRows
    simp
  · unfold turnPage limitRows
    simp

end Listing

/-! ## Posts -/

section Posts

variable {s : AppState} {user channelId : String} {limit : Option Int64}

/-- What is beyond a post for `list_posts`. -/
def PostRow.beyond (a row : PostRow) : Bool :=
  row.activeBefore (a.lastActivityAt, a.id)

theorem PostRow.activeBefore_iff {row : PostRow} {cursor : Int × String} :
    row.activeBefore cursor = true ↔
      row.lastActivityAt < cursor.1 ∨ (row.lastActivityAt = cursor.1 ∧ row.id < cursor.2) := by
  rw [PostRow.activeBefore, decide_eq_true_iff]

theorem PostRow.beyond_trans (a b c : PostRow) (hab : a.beyond b = true) (hbc : b.beyond c = true) :
    a.beyond c = true := by
  rw [PostRow.beyond, PostRow.activeBefore_iff] at *
  rcases hab with hab | ⟨hab, hid⟩
  · rcases hbc with hbc | ⟨hbc, -⟩
    · exact .inl (lt_trans hbc hab)
    · exact .inl (hbc ▸ hab)
  · rcases hbc with hbc | ⟨hbc, hid'⟩
    · exact .inl (hab ▸ hbc)
    · exact .inr ⟨hbc.trans hab, lt_trans hid' hid⟩

theorem mem_livePosts {db : Db} {row : PostRow} (h : row ∈ db.livePosts channelId) :
    row ∈ db.posts.rows :=
  (List.mem_filter.mp h).1

theorem mem_inListingOrder {rows : List PostRow} {row : PostRow} :
    row ∈ inListingOrder rows ↔ row ∈ rows :=
  List.mem_insertionSort _

theorem nodup_listing (db : Db) (channelId : String) :
    (inListingOrder (db.livePosts channelId)).Nodup :=
  (List.perm_insertionSort _ _).nodup_iff.mpr ((List.Nodup.of_map _ db.posts.nodup).filter _)

/-- The posts beyond a post, in the order of the listing. -/
theorem selectPosts_eq (db : Db) (channelId : String) (cursor : Option PostRow) (limit : Int) :
    db.selectPosts channelId (cursor.map fun a => (a.lastActivityAt, a.id)) limit =
      limitRows limit (rowsBeyond (inListingOrder (db.livePosts channelId)) PostRow.beyond
        cursor) := by
  have : Std.Total fun a b : PostRow => b.rank ≤ a.rank := ⟨fun a b => le_total b.rank a.rank⟩
  have : IsTrans PostRow fun a b => b.rank ≤ a.rank := ⟨fun _ _ _ hba hcb => le_trans hcb hba⟩
  unfold Db.selectPosts
  cases cursor with
  | none => simp [rowsBeyond]
  | some a =>
      rw [inListingOrder, insertionSort_filter]
      rfl

/-- A forum is a channel whose type says so. -/
theorem run_requireForumChannel {channel : ChannelRow}
    (hchannel : s.db.channels.find? channelId = some channel) (hleaf : channel.isCategory = false)
    (hforum : channel.channelType = .forum) :
    (requireForumChannel channelId).run s = (.ok (), s) := by
  unfold requireForumChannel
  rw [Prog.run_bind_of_ok (run_fetch _ s), hchannel]
  dsimp only
  rw [Prog.run_bind_of_ok (Prog.run_ensure_of_pos hleaf _ s), Prog.run_ensure_of_pos hforum]

/-- What `list_posts` answers. -/
def PostsAnswer (s : AppState) (user channelId : String) (limit : Option Int64)
    (cursor : Option String) (posts : List PostSummary) (following : Option String) : Prop :=
  ((listPosts user channelId ⟨cursor, limit⟩).run s).1 = .ok ⟨posts, following⟩

theorem run_listPosts {cursor : Option String}
    (hforum : (requireForumChannel channelId).run s = (.ok (), s)) {parsed : Option (Int × String)}
    (hcursor : cursor.elim (.ok none) (fun text => (parseCursor text).map some) = .ok parsed) :
    ((listPosts user channelId ⟨cursor, limit⟩).run s).1 =
      .ok ⟨(turnPage (pageLimit limit)
          (s.db.selectPosts channelId parsed (pageLimit limit + 1))).1.map
            (·.toSummary ((s.db.userPermissions user).has managePosts)),
        (turnPage (pageLimit limit)
          (s.db.selectPosts channelId parsed (pageLimit limit + 1))).2.map (·.cursor)⟩ := by
  unfold listPosts
  rw [Prog.run_bind_of_ok hforum, Prog.run_bind_of_ok (run_userPermissions user s)]
  dsimp only
  rw [hcursor, Prog.run_bind_of_ok (Prog.run_ofExcept _ s), Prog.run_bind_of_ok (run_fetch _ s)]
  rfl

/-- A page that is answered is no longer than the limit, and than what there is. -/
theorem length_le_of_postsAnswer {cursor following : Option String} {posts : List PostSummary}
    (hforum : (requireForumChannel channelId).run s = (.ok (), s))
    (h : PostsAnswer s user channelId limit cursor posts following) :
    posts.length ≤ (s.db.livePosts channelId).length ∧
      (0 ≤ pageLimit limit → (posts.length : Int) ≤ pageLimit limit) := by
  cases hcursor : cursor.elim (.ok none) (fun text => (parseCursor text).map some) with
  | error e =>
      unfold PostsAnswer listPosts at h
      rw [Prog.run_bind_of_ok hforum, Prog.run_bind_of_ok (run_userPermissions user s)] at h
      dsimp only at h
      rw [hcursor, Prog.run_bind_of_error (Prog.run_ofExcept _ s)] at h
      cases h
  | ok parsed =>
      rw [PostsAnswer, run_listPosts hforum hcursor, Except.ok.injEq,
        PostListResponse.mk.injEq] at h
      rw [← h.1, List.length_map]
      refine ⟨?_, (length_turnPage_le _).2⟩
      apply (length_turnPage_le _).1.trans
      apply (length_limitRows_le _ _).trans
      rw [inListingOrder, List.length_insertionSort]
      exact List.length_filter_le _ _

/-- Pages that are read from a post on. -/
theorem postsAnswer_iff (hforum : (requireForumChannel channelId).run s = (.ok (), s))
    (h64 : ∀ row ∈ s.db.posts.rows, -2 ^ 63 ≤ row.lastActivityAt ∧ row.lastActivityAt < 2 ^ 63)
    {cursor : Option PostRow}
    (hcursor : ∀ a ∈ cursor, a ∈ inListingOrder (s.db.livePosts channelId))
    {posts : List PostSummary} {following : Option String} :
    PostsAnswer s user channelId limit (cursor.map (·.cursor)) posts following ↔
      ∃ rows next,
        Pages (inListingOrder (s.db.livePosts channelId)) PostRow.beyond
        (pageLimit limit) cursor rows
          next ∧
        posts = rows.map (·.toSummary ((s.db.userPermissions user).has managePosts)) ∧
          following = next.map (·.cursor) := by
  have hparsed : (cursor.map (·.cursor)).elim (.ok none) (fun text => (parseCursor text).map some) =
      .ok (cursor.map fun a => (a.lastActivityAt, a.id)) := by
    cases cursor with
    | none => rfl
    | some a =>
        have hrow := mem_livePosts (mem_inListingOrder.mp (hcursor a rfl))
        rw [Option.map_some, Option.elim_some, parseCursor_cursor (h64 a hrow).1 (h64 a hrow).2]
        rfl
  rw [PostsAnswer, run_listPosts hforum hparsed, selectPosts_eq, Except.ok.injEq,
    PostListResponse.mk.injEq]
  constructor
  · rintro ⟨rfl, rfl⟩
    exact ⟨_, _, rfl, rfl, rfl⟩
  · rintro ⟨rows, next, hpage, rfl, rfl⟩
    rw [hpage]
    exact ⟨rfl, rfl⟩

/-- Wherever a page ends with a cursor, the posts active earlier than its last one are
those that come after it in the listing. There are no pages for the limits 0 and -1, and
only one without a limit. -/
def PostsEndWell (db : Db) (channelId : String) (limit : Int) : Prop :=
  (limit = 0 ∨ limit = -1 → db.livePosts channelId = []) ∧
    (limit < -1 → (db.livePosts channelId).length ≤ 100) ∧
    ∀ k, PageEnd limit (db.livePosts channelId).length k →
      EndsAt (inListingOrder (db.livePosts channelId)) PostRow.beyond k

/-- All posts of a forum are read, once and in order, in pages of at most a hundred. -/
def PostsRead (s : AppState) (user channelId : String) (limit : Option Int64) : Prop :=
  ∃ pages, Walk (PostsAnswer s user channelId limit) none pages ∧
    pages.flatten = (inListingOrder (s.db.livePosts channelId)).map
      (·.toSummary ((s.db.userPermissions user).has managePosts)) ∧
    ∀ posts ∈ pages, posts.length ≤ 100

section Walks

variable (hforum : (requireForumChannel channelId).run s = (.ok (), s))
  (h64 : ∀ row ∈ s.db.posts.rows, -2 ^ 63 ≤ row.lastActivityAt ∧ row.lastActivityAt < 2 ^ 63)

include hforum h64

theorem walk_posts_iff (hlimit : pageLimit limit ≠ 0 ∧ pageLimit limit ≠ -1) :
    (∃ pages, Walk (PostsAnswer s user channelId limit) none pages ∧
      pages.flatten = (inListingOrder (s.db.livePosts channelId)).map
        (·.toSummary ((s.db.userPermissions user).has managePosts))) ↔
      ∀ k, PageEnd (pageLimit limit) (inListingOrder (s.db.livePosts channelId)).length k →
        EndsAt (inListingOrder (s.db.livePosts channelId)) PostRow.beyond k := by
  apply rendered_pages_iff hlimit (nodup_listing s.db channelId) PostRow.beyond_trans
  · intro a ha b hb hview
    have hid : a.id = b.id := congrArg PostSummary.id hview
    exact s.db.posts.eq_of_key_eq (mem_livePosts (mem_inListingOrder.mp ha))
      (mem_livePosts (mem_inListingOrder.mp hb)) hid
  · intro cursor hcursor posts following
    exact postsAnswer_iff hforum h64 hcursor

/-- With the limits 0 and -1 nothing is answered. -/
theorem postsAnswer_none_iff (hlimit : pageLimit limit = 0 ∨ pageLimit limit = -1)
    {posts : List PostSummary} {following : Option String} :
    PostsAnswer s user channelId limit none posts following ↔ posts = [] ∧ following = none := by
  have hcursor : ∀ a ∈ (none : Option PostRow), a ∈ inListingOrder (s.db.livePosts channelId) := by
    rintro a ⟨⟩
  refine (postsAnswer_iff hforum h64 hcursor).trans ?_
  unfold Pages
  rw [turnPage_of_empty hlimit]
  constructor
  · rintro ⟨rows, next, hpage, rfl, rfl⟩
    cases hpage
    exact ⟨rfl, rfl⟩
  · rintro ⟨rfl, rfl⟩
    exact ⟨[], none, rfl, rfl, rfl⟩

/-- Without a limit the first page is the whole listing. -/
theorem length_of_postsAnswer_none (hlimit : pageLimit limit < -1) {posts : List PostSummary}
    {following : Option String} (h : PostsAnswer s user channelId limit none posts following) :
    posts.length = (s.db.livePosts channelId).length := by
  have hcursor : ∀ a ∈ (none : Option PostRow), a ∈ inListingOrder (s.db.livePosts channelId) := by
    rintro a ⟨⟩
  obtain ⟨rows, next, hpage, rfl, -⟩ := (postsAnswer_iff hforum h64 hcursor).mp h
  have hrows := congrArg Prod.fst hpage
  rw [rowsBeyond, limitRows, if_pos (by omega), turnPage] at hrows
  dsimp only at hrows
  rw [limitRows, if_pos (by omega)] at hrows
  rw [List.length_map, ← hrows, inListingOrder, List.length_insertionSort]

end Walks

/-- A forum is read as it should be exactly if the pages end well. -/
theorem postsRead_iff (s : AppState) (user channelId : String) (limit : Option Int64)
    (channel : ChannelRow) (hchannel : s.db.channels.find? channelId = some channel)
    (hleaf : channel.isCategory = false) (hforum : channel.channelType = .forum)
    (h64 : ∀ row ∈ s.db.posts.rows, -2 ^ 63 ≤ row.lastActivityAt ∧ row.lastActivityAt < 2 ^ 63) :
    PostsRead s user channelId limit ↔ PostsEndWell s.db channelId (pageLimit limit) := by
  have hguard := run_requireForumChannel hchannel hleaf hforum
  have hlength : (inListingOrder (s.db.livePosts channelId)).length =
      (s.db.livePosts channelId).length := List.length_insertionSort _ _
  by_cases hlimit : pageLimit limit = 0 ∨ pageLimit limit = -1
  · constructor
    · rintro ⟨pages, hwalk, hflatten, -⟩
      have hnone : s.db.livePosts channelId = [] := by
        cases hwalk with
        | last h =>
            rw [((postsAnswer_none_iff hguard h64 hlimit).mp h).1] at hflatten
            rw [← List.length_eq_zero_iff, ← hlength, ← List.length_map, ← hflatten]
            rfl
        | next h _ => cases ((postsAnswer_none_iff hguard h64 hlimit).mp h).2
      refine ⟨fun _ => hnone, fun _ => by rw [hnone]; exact Nat.zero_le _, ?_⟩
      rintro k (⟨-, hpos, -⟩ | ⟨i, -, hk, -⟩)
      · rw [hnone] at hpos
        exact absurd hpos (Nat.lt_irrefl 0)
      · rw [hnone] at hk
        exact absurd hk (Nat.not_lt_zero k)
    · rintro ⟨hempty, -, -⟩
      refine ⟨[[]], .last ((postsAnswer_none_iff hguard h64 hlimit).mpr ⟨rfl, rfl⟩), ?_, ?_⟩
      · rw [hempty hlimit]
        rfl
      · intro posts hposts
        rw [List.mem_singleton.mp hposts]
        exact Nat.zero_le _
  · have hends := @walk_posts_iff s user channelId limit hguard h64 (not_or.mp hlimit)
    rw [hlength] at hends
    constructor
    · rintro ⟨pages, hwalk, hflatten, hshort⟩
      refine ⟨fun h => absurd h hlimit, fun hneg => ?_, hends.mp ⟨pages, hwalk, hflatten⟩⟩
      cases hwalk with
      | last h =>
          rw [← length_of_postsAnswer_none hguard h64 hneg h]
          exact hshort _ List.mem_cons_self
      | next h _ =>
          rw [← length_of_postsAnswer_none hguard h64 hneg h]
          exact hshort _ List.mem_cons_self
    · rintro ⟨-, hshort, hwell⟩
      obtain ⟨pages, hwalk, hflatten⟩ := hends.mpr hwell
      refine ⟨pages, hwalk, hflatten, hwalk.all fun cursor posts following h => ?_⟩
      have hbound := length_le_of_postsAnswer hguard h
      have hmax := pageLimit_le limit
      by_cases hneg : pageLimit limit < -1
      · exact hbound.1.trans (hshort hneg)
      · have := hbound.2 (by omega)
        omega

end Posts

/-! ## Replies -/

section Replies

variable {s : AppState} {user channelId postId : String} {limit : Option Int64}

/-- What is beyond a reply for `get_post`. -/
def PostReplyRow.beyond (a row : PostReplyRow) : Bool :=
  a.createdAt < row.createdAt

theorem PostReplyRow.beyond_iff {a row : PostReplyRow} :
    a.beyond row = true ↔ a.createdAt < row.createdAt := by
  rw [PostReplyRow.beyond, decide_eq_true_iff]

theorem PostReplyRow.beyond_trans (a b c : PostReplyRow) (hab : a.beyond b = true)
    (hbc : b.beyond c = true) : a.beyond c = true := by
  rw [PostReplyRow.beyond_iff] at *
  exact lt_trans hab hbc

theorem mem_repliesTo {db : Db} {row : PostReplyRow} (h : row ∈ db.repliesTo postId) :
    row ∈ db.postReplies.rows :=
  (List.mem_filter.mp h).1

theorem mem_inReplyOrder {rows : List PostReplyRow} {row : PostReplyRow} :
    row ∈ inReplyOrder rows ↔ row ∈ rows :=
  List.mem_insertionSort _

instance total_replyOrder : Std.Total fun a b : PostReplyRow => a.rank ≤ b.rank :=
  ⟨fun a b => le_total a.rank b.rank⟩

instance trans_replyOrder : IsTrans PostReplyRow fun a b => a.rank ≤ b.rank :=
  ⟨fun _ _ _ hab hbc => le_trans hab hbc⟩

theorem nodup_replies (db : Db) (postId : String) : (inReplyOrder (db.repliesTo postId)).Nodup :=
  (List.perm_insertionSort _ _).nodup_iff.mpr ((List.Nodup.of_map _ db.postReplies.nodup).filter _)

/-- The replies beyond a reply, in the order of the listing. -/
theorem selectReplies_eq (db : Db) {cursor : Option PostReplyRow}
    (hcursor : ∀ a ∈ cursor, a ∈ db.postReplies.rows) (limit : Int) :
    db.selectReplies postId (cursor.map (·.id)) limit =
      limitRows limit (rowsBeyond (inReplyOrder (db.repliesTo postId)) PostReplyRow.beyond
        cursor) := by
  unfold Db.selectReplies
  cases cursor with
  | none => simp [rowsBeyond]
  | some a =>
      have hfound : db.postReplies.find? a.id = some a :=
        Table.find?_eq_some_iff.mpr ⟨hcursor a rfl, rfl⟩
      rw [inReplyOrder, insertionSort_filter]
      simp only [Option.map_some, Option.all_some, hfound, Option.any_some]
      rfl

/-- What `get_post` answers about the replies. -/
def RepliesAnswer (s : AppState) (user channelId postId : String) (limit : Option Int64)
    (after : Option String) (replies : List ReplyView) (following : Option String) : Prop :=
  ∃ thread, ((getPost user channelId postId ⟨after, limit⟩).run s).1 = .ok thread ∧
    thread.replies = replies ∧ thread.replyCursor = following

/-- Pages that are read from a reply on. -/
theorem repliesAnswer_iff {post : PostRow}
    (hforum : (requireForumChannel channelId).run s = (.ok (), s))
    (hpost : (requirePost channelId postId).run s = (.ok post, s)) {cursor : Option PostReplyRow}
    (hcursor : ∀ a ∈ cursor, a ∈ inReplyOrder (s.db.repliesTo postId)) {replies : List ReplyView}
    {following : Option String} :
    RepliesAnswer s user channelId postId limit (cursor.map (·.id)) replies following ↔
      ∃ rows next,
        Pages (inReplyOrder (s.db.repliesTo postId)) PostReplyRow.beyond
        (pageLimit limit) cursor rows
          next ∧
        replies = rows.map (·.toView ((s.db.userPermissions user).has managePosts)) ∧
          following = next.map (·.id) := by
  have hrows : ∀ a ∈ cursor, a ∈ s.db.postReplies.rows := fun a ha =>
    mem_repliesTo (mem_inReplyOrder.mp (hcursor a ha))
  unfold RepliesAnswer getPost
  rw [Prog.run_bind_of_ok hforum, Prog.run_bind_of_ok (run_userPermissions user s),
    Prog.run_bind_of_ok hpost]
  dsimp only
  rw [Prog.run_bind_of_ok (run_fetch _ s), selectReplies_eq s.db hrows]
  constructor
  · rintro ⟨thread, hthread, rfl, rfl⟩
    cases hthread
    exact ⟨_, _, rfl, rfl, rfl⟩
  · rintro ⟨rows, next, hpage, rfl, rfl⟩
    refine ⟨_, rfl, ?_, ?_⟩
    · rw [hpage]
    · rw [hpage]

/-- No page ends between two replies of one second. -/
def RepliesEndWell (db : Db) (postId : String) (limit : Int) : Prop :=
  ∀ i a b, (inReplyOrder (db.repliesTo postId))[(i + 1) * limit.toNat - 1]? = some a →
    (inReplyOrder (db.repliesTo postId))[(i + 1) * limit.toNat]? = some b →
    a.createdAt ≠ b.createdAt

/-- All replies of a post are read, once and in order. -/
def RepliesRead (s : AppState) (user channelId postId : String) (limit : Option Int64) : Prop :=
  ∃ pages, Walk (RepliesAnswer s user channelId postId limit) none pages ∧
    pages.flatten = (inReplyOrder (s.db.repliesTo postId)).map
      (·.toView ((s.db.userPermissions user).has managePosts))

/-- A number of replies ends well exactly if the next one is of a later second. -/
theorem endsAt_replies_iff {db : Db} {k : ℕ} (hpos : 0 < k)
    (hk : k < (inReplyOrder (db.repliesTo postId)).length) :
    EndsAt (inReplyOrder (db.repliesTo postId)) PostReplyRow.beyond k ↔
      ∀ a b, (inReplyOrder (db.repliesTo postId))[k - 1]? = some a →
        (inReplyOrder (db.repliesTo postId))[k]? = some b → a.createdAt ≠ b.createdAt := by
  have hsorted : (inReplyOrder (db.repliesTo postId)).Pairwise fun a b =>
      a.createdAt ≤ b.createdAt := by
    apply (List.pairwise_insertionSort _ (db.repliesTo postId)).imp
    intro a b hab
    rcases Prod.Lex.le_iff.mp hab with hlt | ⟨heq, -⟩
    · exact le_of_lt hlt
    · exact le_of_eq heq
  generalize inReplyOrder (db.repliesTo postId) = listed at *
  have hlast : (listed.take k).getLast? = listed[k - 1]? := by
    rw [List.getLast?_take, if_neg (by omega), List.getElem?_eq_getElem (by omega)]
    rfl
  rw [List.pairwise_iff_getElem] at hsorted
  constructor
  · intro h a b ha hb heq
    have hmem : b ∈ listed.drop k := by
      apply List.mem_of_getElem? (i := 0)
      rw [List.getElem?_drop]
      exact hb
    have hlater := (h a (hlast.trans ha) b (List.mem_of_mem_drop hmem)).mpr hmem
    rw [PostReplyRow.beyond_iff, heq] at hlater
    exact absurd hlater (lt_irrefl _)
  · intro h a ha x hx
    rw [hlast, Option.mem_def] at ha
    obtain ⟨m, hm, rfl⟩ := List.mem_iff_getElem.mp hx
    have hne := h a listed[k] ha (List.getElem?_eq_getElem hk)
    rw [List.getElem?_eq_getElem (by omega), Option.some.injEq] at ha
    subst ha
    have hstep := hsorted (k - 1) k (by omega) hk (by omega)
    rw [PostReplyRow.beyond_iff]
    constructor
    · intro hlater
      have hmk : k ≤ m := by
        by_contra hlt
        rcases Nat.lt_or_ge m (k - 1) with hbefore | hat
        · exact absurd (hsorted m (k - 1) hm (by omega) hbefore) (not_le_of_gt hlater)
        · have : m = k - 1 := by omega
          subst this
          exact lt_irrefl _ hlater
      apply List.mem_of_getElem? (i := m - k)
      rw [List.getElem?_drop, Nat.add_sub_cancel' hmk, List.getElem?_eq_getElem hm]
    · intro hmem
      have hlt : listed[k - 1].createdAt < listed[k].createdAt := lt_of_le_of_ne hstep hne
      obtain ⟨j, hj, heq⟩ := List.mem_iff_getElem.mp hmem
      rw [List.getElem_drop] at heq
      rw [← heq]
      rcases Nat.eq_zero_or_pos j with rfl | hpos
      · exact hlt
      · rw [List.length_drop] at hj
        exact lt_of_lt_of_le hlt (hsorted k (k + j) hk (by omega) (by omega))

theorem pageLimit_pos (hpositive : ∀ n ∈ limit, 0 < n) : 0 < pageLimit limit := by
  unfold pageLimit
  apply lt_min _ (by decide)
  cases limit with
  | none => decide
  | some n => exact Int64.lt_iff_toInt_lt.mp (hpositive n rfl)

theorem walk_replies_iff {post : PostRow}
    (hforum : (requireForumChannel channelId).run s = (.ok (), s))
    (hpost : (requirePost channelId postId).run s = (.ok post, s)) (hlimit : 0 < pageLimit limit) :
    RepliesRead s user channelId postId limit ↔
      ∀ k, PageEnd (pageLimit limit) (inReplyOrder (s.db.repliesTo postId)).length k →
        EndsAt (inReplyOrder (s.db.repliesTo postId)) PostReplyRow.beyond k := by
  have hnonempty : pageLimit limit ≠ 0 ∧ pageLimit limit ≠ -1 := by omega
  apply rendered_pages_iff hnonempty (nodup_replies s.db postId) PostReplyRow.beyond_trans
  · intro a ha b hb hview
    have hid : a.id = b.id := congrArg ReplyView.id hview
    exact s.db.postReplies.eq_of_key_eq (mem_repliesTo (mem_inReplyOrder.mp ha))
      (mem_repliesTo (mem_inReplyOrder.mp hb)) hid
  · intro cursor hcursor replies following
    exact repliesAnswer_iff hforum hpost hcursor

/-- A post is found in its channel. -/
theorem run_requirePost {post : PostRow} (hpost : s.db.posts.find? postId = some post)
    (hhome : post.channelId = channelId) :
    (requirePost channelId postId).run s = (.ok post, s) := by
  unfold requirePost
  rw [run_requireRow, hpost, Option.elim_some, if_pos (by simpa using hhome)]

/-- With a positive limit the replies are read as they should be exactly if no page ends
between two of one second. -/
theorem repliesRead_iff (s : AppState) (user channelId postId : String) (limit : Option Int64)
    (channel : ChannelRow) (post : PostRow)
    (hchannel : s.db.channels.find? channelId = some channel)
    (hleaf : channel.isCategory = false) (hforum : channel.channelType = .forum)
    (hpost : s.db.posts.find? postId = some post) (hhome : post.channelId = channelId)
    (hpositive : ∀ n ∈ limit, 0 < n) :
    RepliesRead s user channelId postId limit ↔ RepliesEndWell s.db postId (pageLimit limit) := by
  have hlimit := pageLimit_pos hpositive
  rw [walk_replies_iff (run_requireForumChannel hchannel hleaf hforum)
    (run_requirePost hpost hhome) hlimit]
  unfold RepliesEndWell
  constructor
  · intro h i a b ha hb
    have hpos : 0 < (i + 1) * (pageLimit limit).toNat := Nat.mul_pos (Nat.succ_pos i) (by omega)
    have hk := (List.getElem?_eq_some_iff.mp hb).1
    exact (endsAt_replies_iff hpos hk).mp (h _ (.inr ⟨i, rfl, hk, by omega⟩)) a b ha hb
  · rintro h k (⟨-, -, hneg⟩ | ⟨i, rfl, hk, -⟩)
    · omega
    · have hpos : 0 < (i + 1) * (pageLimit limit).toNat := Nat.mul_pos (Nat.succ_pos i) (by omega)
      exact (endsAt_replies_iff hpos hk).mpr (h i)

end Replies

/-! ## Two forums -/

def forumChannel : ChannelRow :=
  { id := "forum", name := "forum", createdBy := "admin", parentId := none, channelType := .forum,
    createdAt := 1 }

def forumPost (id : String) (isPinned : Bool) (lastActivityAt : Int) : PostRow :=
  { id := id, channelId := "forum", authorPubkey := "author", title := "title", body := "body",
    createdAt := 1, isPinned := isPinned, lastActivityAt := lastActivityAt }

def forumReply (id : String) (createdAt : Int) : PostReplyRow :=
  { id := id, postId := "a", authorPubkey := "author", body := "body", createdAt := createdAt }

/-- The pinned post is the one that was active last, and the replies are of two seconds. -/
def calmForum : AppState :=
  { db :=
      { channels := ⟨[forumChannel], by decide⟩
        posts := ⟨[forumPost "a" true 300, forumPost "b" false 200], by decide⟩
        postReplies := ⟨[forumReply "r" 100, forumReply "s" 101], by decide⟩ } }

/-- Another post was active after the pinned one, and the replies are of one second. -/
def busyForum : AppState :=
  { db :=
      { channels := ⟨[forumChannel], by decide⟩
        posts := ⟨[forumPost "a" true 100, forumPost "b" false 200], by decide⟩
        postReplies := ⟨[forumReply "r" 100, forumReply "s" 100], by decide⟩ } }

theorem postsRead_calmForum : PostsRead calmForum "reader" "forum" (some 1) := by
  apply (postsRead_iff calmForum "reader" "forum" (some 1) forumChannel rfl rfl rfl (by decide)).mpr
  refine ⟨by decide, by decide, ?_⟩
  rintro k (⟨-, -, hneg⟩ | ⟨i, rfl, hk, -⟩)
  · exact absurd hneg (by decide)
  · have hi : i = 0 := by
      have hk' : (i + 1) * 1 < 2 := hk
      omega
    subst hi
    decide +kernel

/-- Post by post, the pinned post is read and the other one is not. -/
theorem not_postsRead_busyForum : ¬ PostsRead busyForum "reader" "forum" (some 1) := by
  rintro ⟨pages, hwalk, hflatten, -⟩
  have hfound : busyForum.db.channels.find? "forum" = some forumChannel := rfl
  have hguard := run_requireForumChannel hfound rfl rfl
  have hends := (walk_posts_iff hguard (by decide) (by decide)).mp ⟨pages, hwalk, hflatten⟩
  have hend := hends 1 (.inr ⟨0, by decide, by decide, by decide⟩)
  exact absurd hend (by decide +kernel)

theorem repliesRead_calmForum : RepliesRead calmForum "reader" "forum" "a" (some 1) := by
  have hpositive : ∀ n ∈ (some 1 : Option Int64), 0 < n := by
    intro n hn
    cases hn
    decide
  apply (repliesRead_iff calmForum "reader" "forum" "a" (some 1) forumChannel _ rfl rfl rfl rfl rfl
    hpositive).mpr
  have hlength : (inReplyOrder (calmForum.db.repliesTo "a")).length = 2 := by decide
  have hlimit : (pageLimit (some 1)).toNat = 1 := by decide
  intro i a b ha hb
  have hk := (List.getElem?_eq_some_iff.mp hb).1
  rw [hlength, hlimit] at hk
  have hi : i = 0 := by omega
  subst hi
  have hfirst : some (forumReply "r" 100) = some a := ha
  have hsecond : some (forumReply "s" 101) = some b := hb
  cases hfirst
  cases hsecond
  decide

/-- Reply by reply, the first of the two is read and the other one is not. -/
theorem not_repliesRead_busyForum : ¬ RepliesRead busyForum "reader" "forum" "a" (some 1) := by
  have hfound : busyForum.db.channels.find? "forum" = some forumChannel := rfl
  have hguard := run_requireForumChannel hfound rfl rfl
  have hpost : (requirePost "forum" "a").run busyForum =
      (.ok (forumPost "a" true 100), busyForum) := run_requirePost rfl rfl
  rw [walk_replies_iff hguard hpost (by decide)]
  intro hends
  have hend := hends 1 (.inr ⟨0, by decide, by decide, by decide⟩)
  exact absurd hend (by decide +kernel)

end Voxply.Hub
