/-
# Reading a channel backwards

`get_messages` lists the newest messages first, by the time that their sender's request
began, and continues before a message with those whose row is older.  A request that has
been waiting for a bot inserts a row whose time lies before that of older rows; then what
is before a message and what follows it in the listing are not the same.
-/

import Voxply.Hub.ForumPaging
import Voxply.Hub.Silencing

namespace Voxply.Hub

open Voxply.Math

/-! ## The listing -/

/-- The order of the times, newest first. -/
def Newer (a b : MessageRow) : Prop :=
  b.createdAt ≤ a.createdAt
  deriving Decidable

instance total_newer : Std.Total Newer :=
  ⟨fun a b => le_total b.createdAt a.createdAt⟩

instance trans_newer : IsTrans MessageRow Newer :=
  ⟨fun _ _ _ hba hcb => le_trans hcb hba⟩

/-- The messages of a channel, newest first. -/
def Db.history (db : Db) (channelId : String) : List MessageRow :=
  (db.messages.rows.filter (·.channelId = channelId)).reverse.insertionSort Newer

/-- What is before a message: the rows that are older than its own. -/
def Db.before (db : Db) (a row : MessageRow) : Bool :=
  row ∈ db.messages.rows.takeWhile (·.id ≠ a.id)

/-- `limit.unwrap_or(50).min(100)`. -/
def historyLimit (limit : Option Int) : Int :=
  min (limit.getD 50) 100

section Listing

variable {db : Db} {channelId : String}

theorem mem_history {row : MessageRow} :
    row ∈ db.history channelId ↔ row ∈ db.messages.rows ∧ row.channelId = channelId := by
  rw [Db.history, List.mem_insertionSort, List.mem_reverse, List.mem_filter, decide_eq_true_iff]

theorem nodup_history (db : Db) (channelId : String) : (db.history channelId).Nodup :=
  (List.perm_insertionSort _ _).nodup_iff.mpr
    (List.nodup_reverse.mpr ((List.Nodup.of_map _ db.messages.nodup).filter _))

theorem newestFirst_eq (rows : List MessageRow) (limit : Int) :
    newestFirst rows limit = limitRows limit (rows.reverse.insertionSort Newer) := rfl

theorem before_iff {a row : MessageRow} :
    db.before a row = true ↔ row ∈ db.messages.rows.takeWhile (·.id ≠ a.id) := by
  rw [Db.before, decide_eq_true_iff]

/-- What comes before an element of an initial part is in that part. -/
theorem mem_takeWhile_of_mem {A : Type} {xs : List A} {p q : A → Bool} {b c : A}
    (hb : b ∈ xs.takeWhile p) (hq : ¬ q b = true) (hc : c ∈ xs.takeWhile q) :
    c ∈ xs.takeWhile p := by
  induction xs with
  | nil => cases hc
  | cons x rest ih =>
      rw [List.takeWhile_cons] at hb hc ⊢
      by_cases hpx : p x = true
      · rw [if_pos hpx] at hb ⊢
        by_cases hqx : q x = true
        · rw [if_pos hqx, List.mem_cons] at hc
          rcases hc with rfl | hc
          · exact List.mem_cons_self
          · rcases List.mem_cons.mp hb with rfl | hb
            · exact absurd hqx hq
            · exact List.mem_cons_of_mem _ (ih hb hc)
        · rw [if_neg hqx] at hc
          cases hc
      · rw [if_neg hpx] at hb
        cases hb

/-- The elements of an initial part, selected from the whole. -/
theorem filter_mem_takeWhile {A : Type} [DecidableEq A] {xs : List A} (hnodup : xs.Nodup)
    (p : A → Bool) : xs.filter (· ∈ xs.takeWhile p) = xs.takeWhile p := by
  have hsplit : xs.takeWhile p ++ xs.dropWhile p = xs := List.takeWhile_append_dropWhile
  rw [← hsplit, List.nodup_append] at hnodup
  have hfirst : (xs.takeWhile p).filter (· ∈ xs.takeWhile p) = xs.takeWhile p :=
    List.filter_eq_self.mpr fun x hx => decide_eq_true hx
  have hsecond : (xs.dropWhile p).filter (· ∈ xs.takeWhile p) = [] := by
    rw [List.filter_eq_nil_iff]
    intro x hx hmem
    exact hnodup.2.2 x (of_decide_eq_true hmem) x hx rfl
  calc xs.filter (· ∈ xs.takeWhile p)
      = (xs.takeWhile p ++ xs.dropWhile p).filter (· ∈ xs.takeWhile p) := by rw [hsplit]
    _ = xs.takeWhile p := by rw [List.filter_append, hfirst, hsecond, List.append_nil]

theorem before_trans (a b c : MessageRow) (hab : db.before a b = true)
    (hbc : db.before b c = true) : db.before a c = true := by
  rw [before_iff] at *
  exact mem_takeWhile_of_mem hab (by simp) hbc

/-- The rows before a message make up a part of the listing, in its order. -/
theorem history_before (a : MessageRow) :
    ((db.messages.rows.takeWhile (·.id ≠ a.id)).filter
      (·.channelId = channelId)).reverse.insertionSort
      Newer = (db.history channelId).filter (db.before a) := by
  have hrows : db.messages.rows.filter (db.before a) = db.messages.rows.takeWhile (·.id ≠ a.id) :=
    filter_mem_takeWhile (List.Nodup.of_map _ db.messages.nodup) _
  rw [Db.history, ← insertionSort_filter, List.filter_reverse, List.filter_comm, hrows]

end Listing

/-! ## Pages -/

section Pages

variable {s : AppState} {fts : String → Except String (String → Bool)} {user channelId : String}
  {limit : Option Int}

/-- A message as it is answered. -/
def AppState.messageView (s : AppState) (user : String) (row : MessageRow) : MessageResponse :=
  (s.db.joined row).response (s.db.reactionsTo row.id (some user))
    (row.replyTo.bind s.db.replyContext)

/-- A page and the message that the next one is asked for with: its oldest, until a page is
empty. -/
def HistoryAnswer (fts : String → Except String (String → Bool)) (s : AppState)
    (user channelId : String) (limit : Option Int) (before : Option String)
    (messages : List MessageResponse) (following : Option String) : Prop :=
  ((getMessages fts user channelId { before := before, limit := limit }).run s).1 = .ok messages ∧
    following = messages.getLast?.map (·.id)

/-- What is answered from a message on. -/
theorem run_getMessages {cursor : Option MessageRow}
    (hcursor : ∀ a ∈ cursor, a ∈ s.db.history channelId) :
    ((getMessages fts user channelId { before := cursor.map (·.id), limit := limit }).run s).1 =
      .ok ((limitRows (historyLimit limit)
        (rowsBeyond (s.db.history channelId) s.db.before cursor)).map (s.messageView user)) := by
  have hpage : s.db.messagePage fts channelId { before := cursor.map (·.id), limit := limit } =
      .ok (limitRows (historyLimit limit)
        (rowsBeyond (s.db.history channelId) s.db.before cursor)) := by
    unfold Db.messagePage
    cases cursor with
    | none => rfl
    | some a =>
        have hknown : s.db.messages.has a.id = true :=
          Table.has_iff.mpr ⟨a, (mem_history.mp (hcursor a rfl)).1, rfl⟩
        simp only [Option.map_none, Option.filter_none, Option.map_some, hknown, if_true]
        rw [newestFirst_eq, history_before]
        rfl
  unfold getMessages
  rw [Prog.run_bind_of_ok (run_fetch _ s), hpage]
  show ((responses user true (List.map s.db.joined _)).run s).1 = _
  rw [run_responses, List.map_map]
  rfl

/-- The numbers of messages after which a page ends. The last page is followed by an empty
one. -/
def HistoryEnd (limit : Int) (total k : ℕ) : Prop :=
  k = total ∧ 0 < total ∧ limit < 0 ∨
    ∃ i, k = min ((i + 1) * limit.toNat) total ∧ i * limit.toNat < total ∧ 0 ≤ limit

/-- Wherever a page ends, the rows older than that of its last message are those of the
messages that come after it in the listing. There are no pages for the limit 0, and only
one without a limit. -/
def HistoryEndsWell (db : Db) (channelId : String) (limit : Int) : Prop :=
  (limit = 0 → db.history channelId = []) ∧ (limit < 0 → (db.history channelId).length ≤ 100) ∧
    ∀ k, HistoryEnd limit (db.history channelId).length k →
      EndsAt (db.history channelId) db.before k

/-- Each message of a channel is read once, in pages of at most a hundred. -/
def HistoryRead (fts : String → Except String (String → Bool)) (s : AppState)
    (user channelId : String) (limit : Option Int) : Prop :=
  ∃ pages, Walk (HistoryAnswer fts s user channelId limit) none pages ∧
    pages.flatten.Perm ((s.db.messages.rows.filter (·.channelId = channelId)).map
    (s.messageView user)) ∧
    ∀ messages ∈ pages, messages.length ≤ 100

theorem historyLimit_le (limit : Option Int) : historyLimit limit ≤ 100 :=
  min_le_right _ _

theorem history_perm (db : Db) (channelId : String) :
    (db.history channelId).Perm (db.messages.rows.filter (·.channelId = channelId)) :=
  (List.perm_insertionSort _ _).trans (List.reverse_perm _)

theorem limitRows_eq_take {A : Type} {n : Int} {total : ℕ} {rows : List A}
    (hrows : rows.length ≤ total) : limitRows n rows = rows.take (pageLength n total) := by
  unfold limitRows pageLength
  split_ifs
  · exact (List.take_of_length_le (by omega)).symm
  · rfl

/-- Pages that are read from a message on. -/
theorem historyAnswer_iff {cursor : Option MessageRow}
    (hcursor : ∀ a ∈ cursor, a ∈ s.db.history channelId) {messages : List MessageResponse}
    {following : Option String} :
    HistoryAnswer fts s user channelId limit (cursor.map (·.id)) messages following ↔
      ∃ rows next,
        Turns (s.db.history channelId) s.db.before
          (pageLength (historyLimit limit) (s.db.history channelId).length)
          (fun _ => true) cursor rows next ∧
        messages = rows.map (s.messageView user) ∧ following = next.map (·.id) := by
  have hlast (rows : List MessageRow) :
      ((rows.map (s.messageView user)).getLast?).map (·.id) = rows.getLast?.map (·.id) := by
    rw [List.getLast?_map, Option.map_map]
    rfl
  unfold HistoryAnswer Turns
  rw [run_getMessages hcursor, limitRows_eq_take (length_rowsBeyond_le cursor),
    Except.ok.injEq]
  constructor
  · rintro ⟨rfl, rfl⟩
    exact ⟨_, _, ⟨rfl, rfl⟩, rfl, hlast _⟩
  · rintro ⟨rows, next, ⟨rfl, rfl⟩, rfl, rfl⟩
    exact ⟨rfl, (hlast _).symm⟩

/-- The messages can be read, each of them once, exactly if the pages end well. -/
theorem walk_history_iff (hlimit : historyLimit limit ≠ 0) :
    (∃ pages, Walk (HistoryAnswer fts s user channelId limit) none pages ∧
      pages.flatten.Perm
        ((s.db.messages.rows.filter (·.channelId = channelId)).map (s.messageView user))) ↔
      ∀ k, HistoryEnd (historyLimit limit) (s.db.history channelId).length k →
        EndsAt (s.db.history channelId) s.db.before k := by
  have hrender : ∀ a ∈ s.db.history channelId, ∀ b ∈ s.db.history channelId,
      s.messageView user a = s.messageView user b → a = b := by
    intro a ha b hb hview
    have hid : a.id = b.id := congrArg MessageResponse.id hview
    exact s.db.messages.eq_of_key_eq (mem_history.mp ha).1 (mem_history.mp hb).1 hid
  have hn : 0 < pageLength (historyLimit limit) (s.db.history channelId).length := by
    unfold pageLength
    split_ifs <;> omega
  have hviews := (history_perm s.db channelId).map (s.messageView user)
  have hread (pages : List (List MessageResponse)) :
      pages.flatten.Perm
        ((s.db.messages.rows.filter (·.channelId = channelId)).map (s.messageView user)) ↔
      pages.flatten.Perm ((s.db.history channelId).map (s.messageView user)) :=
    ⟨fun h => h.trans hviews.symm, fun h => h.trans hviews⟩
  simp only [hread]
  rw [rendered_walk_perm_iff before_trans (nodup_history s.db channelId) hrender
      fun cursor hcursor messages following => historyAnswer_iff hcursor,
    walk_perm_iff (nodup_history s.db channelId) hn (fun _ _ => rfl) before_trans]
  by_cases hneg : historyLimit limit < 0
  · rw [pageLength, if_pos hneg]
    constructor
    · rintro h k (⟨rfl, hpos, -⟩ | ⟨i, -, -, hge⟩)
      · exact (endsAt_of_length_le (by omega)).mp (h 0 (by omega) rfl)
      · omega
    · intro h i hi _
      have hend := h _ (.inl ⟨rfl, by omega, hneg⟩)
      apply (endsAt_of_length_le _).mpr hend
      exact (Nat.le_succ _).trans (Nat.le_add_left _ _)
  · rw [pageLength, if_neg hneg]
    have hmin (k : ℕ) : EndsAt (s.db.history channelId) s.db.before
        (min k (s.db.history channelId).length)
        ↔ EndsAt (s.db.history channelId) s.db.before k := by
      rcases Nat.le_total k (s.db.history channelId).length with hle | hle
      · rw [Nat.min_eq_left hle]
      · rw [Nat.min_eq_right hle, endsAt_of_length_le hle]
    constructor
    · rintro h k (⟨-, -, hlt⟩ | ⟨i, rfl, hi, -⟩)
      · omega
      · rw [hmin, Nat.succ_mul]
        exact h i hi rfl
    · intro h i hi _
      rw [← Nat.succ_mul, ← hmin]
      exact h _ (.inr ⟨i, rfl, hi, by omega⟩)

/-- With the limit 0 nothing is answered. -/
theorem historyAnswer_none_iff (hlimit : historyLimit limit = 0) {messages : List MessageResponse}
    {following : Option String} :
    HistoryAnswer fts s user channelId limit none messages following ↔
      messages = [] ∧ following = none := by
  have hrun := @run_getMessages s fts user channelId limit none (by rintro a ⟨⟩)
  rw [Option.map_none, hlimit] at hrun
  have hnone : limitRows 0 (rowsBeyond (s.db.history channelId) s.db.before none) = [] := by
    simp [limitRows]
  rw [hnone, List.map_nil] at hrun
  unfold HistoryAnswer
  rw [hrun, Except.ok.injEq]
  constructor
  · rintro ⟨rfl, rfl⟩
    exact ⟨rfl, rfl⟩
  · rintro ⟨rfl, rfl⟩
    exact ⟨rfl, rfl⟩

theorem length_newestFirst_le (rows : List MessageRow) (n : Int) :
    (newestFirst rows n).length ≤ rows.length ∧
    (0 ≤ n → ((newestFirst rows n).length : Int) ≤ n) := by
  rw [newestFirst_eq]
  constructor
  · apply (length_limitRows_le _ _).trans
    rw [List.length_insertionSort, List.length_reverse]
  · intro hn
    rw [limitRows, if_neg (by omega), List.length_take]
    omega

/-- A page is no longer than the limit, and than what there is. -/
theorem length_le_of_historyAnswer {before following : Option String}
    {messages : List MessageResponse}
    (h : HistoryAnswer fts s user channelId limit before messages following) :
    messages.length ≤ (s.db.history channelId).length ∧
      (0 ≤ historyLimit limit → (messages.length : Int) ≤ historyLimit limit) := by
  have hpage : ∃ rows : List MessageRow,
      rows.Sublist (s.db.messages.rows.filter (·.channelId = channelId)) ∧
      s.db.messagePage fts channelId { before := before, limit := limit } =
        .ok (newestFirst rows (historyLimit limit)) := by
    unfold Db.messagePage
    cases before with
    | none => exact ⟨_, List.Sublist.refl _, rfl⟩
    | some id =>
        refine ⟨_, ?_, rfl⟩
        apply List.Sublist.filter
        split_ifs
        · exact List.takeWhile_sublist _
        · exact List.nil_sublist _
  obtain ⟨rows, hsub, hpage⟩ := hpage
  obtain ⟨hrun, -⟩ := h
  unfold getMessages at hrun
  rw [Prog.run_bind_of_ok (run_fetch _ s), hpage] at hrun
  replace hrun : ((responses user true (List.map s.db.joined _)).run s).1 = .ok messages := hrun
  rw [run_responses, Except.ok.injEq] at hrun
  rw [← hrun, List.length_map, List.length_map]
  refine ⟨?_, (length_newestFirst_le rows _).2⟩
  rw [(history_perm s.db channelId).length_eq]
  exact (length_newestFirst_le rows _).1.trans hsub.length_le

/-- Without a limit the first page is the whole listing. -/
theorem length_of_historyAnswer_none (hlimit : historyLimit limit < 0)
    {messages : List MessageResponse} {following : Option String}
    (h : HistoryAnswer fts s user channelId limit none messages following) :
    messages.length = (s.db.history channelId).length := by
  have hrun := @run_getMessages s fts user channelId limit none (by rintro a ⟨⟩)
  have hfirst := h.1.symm.trans hrun
  rw [Except.ok.injEq] at hfirst
  rw [hfirst, List.length_map, limitRows, if_pos hlimit]
  rfl

/-- A channel is read as it should be exactly if the pages end well. -/
theorem historyRead_iff_endsWell :
    HistoryRead fts s user channelId limit ↔
    HistoryEndsWell s.db channelId (historyLimit limit) := by
  by_cases hlimit : historyLimit limit = 0
  · constructor
    · rintro ⟨pages, hwalk, hflatten, -⟩
      have hnone : s.db.history channelId = [] := by
        cases hwalk with
        | last h =>
            rw [((historyAnswer_none_iff hlimit).mp h).1] at hflatten
            have hlength := hflatten.length_eq
            rw [List.length_map, ← (history_perm s.db channelId).length_eq] at hlength
            exact List.length_eq_zero_iff.mp hlength.symm
        | next h _ => cases ((historyAnswer_none_iff hlimit).mp h).2
      refine ⟨fun _ => hnone, fun hneg => by omega, ?_⟩
      intro k _ a ha
      rw [hnone, List.take_nil] at ha
      cases ha
    · rintro ⟨hempty, -, -⟩
      refine ⟨[[]], .last ((historyAnswer_none_iff hlimit).mpr ⟨rfl, rfl⟩), ?_, ?_⟩
      · have hperm := history_perm s.db channelId
        rw [hempty hlimit] at hperm
        exact hperm.map _
      · intro messages hmessages
        rw [List.mem_singleton.mp hmessages]
        exact Nat.zero_le _
  · have hends := @walk_history_iff s fts user channelId limit hlimit
    constructor
    · rintro ⟨pages, hwalk, hflatten, hshort⟩
      refine ⟨fun h => absurd h hlimit, fun hneg => ?_, hends.mp ⟨pages, hwalk, hflatten⟩⟩
      cases hwalk with
      | last h =>
          rw [← length_of_historyAnswer_none hneg h]
          exact hshort _ List.mem_cons_self
      | next h _ =>
          rw [← length_of_historyAnswer_none hneg h]
          exact hshort _ List.mem_cons_self
    · rintro ⟨-, hshort, hwell⟩
      obtain ⟨pages, hwalk, hflatten⟩ := hends.mpr hwell
      refine ⟨pages, hwalk, hflatten, hwalk.all fun before messages following h => ?_⟩
      have hbound := length_le_of_historyAnswer h
      have hmax := historyLimit_le limit
      by_cases hneg : historyLimit limit < 0
      · exact hbound.1.trans (hshort hneg)
      · have := hbound.2 (by omega)
        omega

/-! ### Messages in order -/

/-- An initial part that ends at a selected element can be taken from the selection. -/
theorem filter_takeWhile {A : Type} {xs : List A} {p q : A → Bool}
    (h : ∀ x ∈ xs, ¬ p x = true → q x = true) :
    (xs.takeWhile p).filter q = (xs.filter q).takeWhile p := by
  induction xs with
  | nil => rfl
  | cons x rest ih =>
      have hrest := ih fun y hy => h y (List.mem_cons_of_mem _ hy)
      by_cases hp : p x = true
      · by_cases hq : q x = true
        · rw [List.takeWhile_cons_of_pos hp, List.filter_cons_of_pos hq, List.filter_cons_of_pos hq,
            List.takeWhile_cons_of_pos hp, hrest]
        · rw [List.takeWhile_cons_of_pos hp, List.filter_cons_of_neg hq, List.filter_cons_of_neg hq,
            hrest]
      · have hq := h x List.mem_cons_self hp
        rw [List.takeWhile_cons_of_neg hp, List.filter_cons_of_pos hq,
          List.takeWhile_cons_of_neg hp]
        rfl

/-- If no message is newer than one whose row is newer, every page ends well. -/
theorem endsAt_of_inOrder (horder : (s.db.messages.rows.filter (·.channelId = channelId)).Pairwise
    fun a b => a.createdAt ≤ b.createdAt) (k : ℕ) :
    EndsAt (s.db.history channelId) s.db.before k := by
  intro a ha x hx
  have hsorted : s.db.history channelId =
      (s.db.messages.rows.filter (·.channelId = channelId)).reverse :=
    List.Pairwise.insertionSort_eq (List.pairwise_reverse.mpr horder)
  have hmem := List.mem_of_mem_take (List.mem_of_getLast? ha)
  obtain ⟨initial, hinitial⟩ : ∃ initial, (s.db.history channelId).take k = initial ++ [a] :=
    ⟨_, (List.dropLast_append_getLast? a ha).symm⟩
  have hsplit : s.db.messages.rows.filter (·.channelId = channelId) =
      ((s.db.history channelId).drop k).reverse ++ a :: initial.reverse := by
    rw [← List.reverse_reverse (s.db.messages.rows.filter _), ← hsorted]
    conv_lhs => rw [← List.take_append_drop k (s.db.history channelId), hinitial]
    simp
  have hkey : ∀ row ∈ s.db.messages.rows, ¬ decide (row.id ≠ a.id) = true →
      decide (row.channelId = channelId) = true := by
    intro row hrow hid
    have hsame := s.db.messages.eq_of_key_eq hrow (mem_history.mp hmem).1 (by simpa using hid)
    rw [hsame]
    exact decide_eq_true (mem_history.mp hmem).2
  have hothers : ∀ row ∈ ((s.db.history channelId).drop k).reverse,
      decide (row.id ≠ a.id) = true := by
    intro row hrow
    rw [List.mem_reverse] at hrow
    apply decide_eq_true
    intro hid
    have hsame := s.db.messages.eq_of_key_eq
      (mem_history.mp (List.mem_of_mem_drop hrow)).1 (mem_history.mp hmem).1 hid
    subst hsame
    exact not_mem_drop_of_mem_take (nodup_history s.db channelId) (List.mem_of_getLast? ha) hrow
  have hbefore : ((s.db.messages.rows.takeWhile (·.id ≠ a.id)).filter (·.channelId = channelId)) =
      ((s.db.history channelId).drop k).reverse := by
    rw [filter_takeWhile hkey, hsplit, List.takeWhile_append_of_pos hothers,
      List.takeWhile_cons_of_neg (by simp), List.append_nil]
  have hafter : x ∈ ((s.db.history channelId).drop k).reverse ↔
      x ∈ (s.db.history channelId).drop k :=
    List.mem_reverse
  rw [before_iff, ← hafter, ← hbefore, List.mem_filter]
  exact (and_iff_left (decide_eq_true (mem_history.mp hx).2)).symm

/-- Messages that have been inserted in order are read as they should be, with any limit
that is positive. -/
theorem historyRead_of_inOrder
    (horder : (s.db.messages.rows.filter (·.channelId = channelId)).Pairwise
    fun a b => a.createdAt ≤ b.createdAt) (hlimit : 0 < historyLimit limit) :
    HistoryRead fts s user channelId limit := by
  apply historyRead_iff_endsWell.mpr
  exact ⟨fun h => by omega, fun h => by omega, fun k _ => endsAt_of_inOrder horder k⟩

end Pages

/-! ## Sending -/

/-- A request to `send_message`. -/
structure SendRequest where
  env : SendMessageEnv
  user : String
  channelId : String
  req : SendMessageRequest
  deriving DecidableEq

def SendRequest.handler (world : BotWorld) (request : SendRequest) :
    Handler (StatusCode × MessageResponse) :=
  sendMessage world request.env request.user request.channelId request.req

/-- Whatever has been sent, in whatever order of the statements: a channel is read as it
should be exactly if the pages end well. -/
theorem historyRead_iff (world : BotWorld) (moves : List (Move SendRequest)) (s : AppState)
    (fts : String → Except String (String → Bool)) (user channelId : String) (limit : Option Int) :
    HistoryRead fts (serve (SendRequest.handler world) moves s).state user channelId limit ↔
      HistoryEndsWell (serve (SendRequest.handler world) moves s).state.db channelId
        (historyLimit limit) :=
  historyRead_iff_endsWell

/-! ## A slow command -/

/-- A hub with one channel, on which nothing has been written. -/
def quietChannel : AppState where
  db := { Db.migrated with
    users := .single ⟨"alice", 0, 0, .approved, none, false, 0, none, .none, none⟩
    userRoles := .single ⟨"alice", "builtin-everyone", 0⟩
    channels := .single
      ⟨"general", "general", "alice", none, false, 0, none, none, none, none, .text, 0, 0⟩ }

/-- Alice writes at some time. -/
def aliceWrites (id content : String) (now : Int) : SendRequest :=
  ⟨⟨id, now, now, ⟨"hint", "reply", now⟩, "error", now⟩, "alice", "general", ⟨content, [], none⟩⟩

/-- The bots are being asked about the first message when the second one is sent. -/
def slowCommand : List (Move SendRequest) :=
  .start (aliceWrites "m1" "/hi" 1) :: List.replicate 6 (.exec 0) ++
    .start (aliceWrites "m2" "hello" 2) :: List.replicate 20 (.exec 1) ++
      List.replicate 20 (.exec 0)

/-- Message by message, the second one is read and the first one is not. -/
theorem slowCommand_not_historyRead :
    ¬ HistoryRead (fun _ => .ok fun _ => false)
      (serve (SendRequest.handler emptyWorld) slowCommand quietChannel).state "alice" "general"
      (some 1) := by
  rintro ⟨pages, hwalk, hflatten, -⟩
  have hends := (walk_history_iff (by decide)).mp ⟨pages, hwalk, hflatten⟩
  have hlength : ((serve (SendRequest.handler emptyWorld) slowCommand quietChannel).state.db.history
      "general").length = 2 := by
    decide +kernel
  have hend := hends 1 (.inr ⟨0, by rw [hlength]; decide, by rw [hlength]; decide, by decide⟩)
  exact absurd hend (by decide +kernel)

end Voxply.Hub
