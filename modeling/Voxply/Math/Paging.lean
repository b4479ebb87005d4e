/-
# Listings in pages

A listing is read in pages: each request names the last row of the page before, and the
answer holds the first rows beyond it.  What counts as beyond a row need not be the order
of the listing.  The pages make up the listing exactly if the two agree wherever a page
ends: what is beyond the last row of a page is what the listing has after it.
-/

import Mathlib.Data.List.Nodup
import Mathlib.Data.List.Sort
import Mathlib.Tactic.Common

namespace Voxply.Math

universe u v w x

variable {α : Type u} {β : Type v} {γ : Type w} {δ : Type x}

/-! ## Following a cursor -/

/-- The pages from a cursor on, until an answer gives no further cursor. -/
inductive Walk (answers : Option γ → List α → Option γ → Prop) : Option γ → List (List α) → Prop
  | last {cursor : Option γ} {rows : List α} (h : answers cursor rows none) :
      Walk answers cursor [rows]
  | next {cursor : Option γ} {rows : List α} {following : γ} {pages : List (List α)}
      (h : answers cursor rows (some following)) (rest : Walk answers (some following) pages) :
      Walk answers cursor (rows :: pages)

/-- What holds of every page that is answered holds of the pages of a walk. -/
theorem Walk.all {answers : Option γ → List α → Option γ → Prop} {good : List α → Prop}
    (hgood : ∀ cursor rows following, answers cursor rows following → good rows)
    {cursor : Option γ} {pages : List (List α)} (h : Walk answers cursor pages) :
    ∀ rows ∈ pages, good rows := by
  induction h with
  | last h =>
      intro rows hrows
      rw [List.mem_singleton.mp hrows]
      exact hgood _ _ _ h
  | next h _ ih =>
      intro rows hrows
      rcases List.mem_cons.mp hrows with rfl | hrows
      · exact hgood _ _ _ h
      · exact ih rows hrows

/-- Two ways to read the same pages, one of them rendered. `valid` are the cursors that
come up. -/
theorem walk_map_iff {answers : Option γ → List α → Option γ → Prop}
    {rendered : Option δ → List β → Option δ → Prop} {valid : γ → Prop} {encode : γ → δ}
    {render : α → β}
    (hvalid : ∀ cursor rows following, answers cursor rows (some following) → valid following)
    (h : ∀ cursor, (∀ c ∈ cursor, valid c) → ∀ views following,
      rendered (cursor.map encode) views following ↔
        ∃ rows next, answers cursor rows next ∧ views = rows.map render ∧
          following = next.map encode)
    {cursor : Option γ} (hcursor : ∀ c ∈ cursor, valid c) {pages : List (List β)} :
    Walk rendered (cursor.map encode) pages ↔
      ∃ rows, Walk answers cursor rows ∧ pages = rows.map fun page => page.map render := by
  constructor
  · intro hwalk
    generalize hc : cursor.map encode = c at hwalk
    induction hwalk generalizing cursor with
    | last hanswer =>
        subst hc
        obtain ⟨rows, next, hrows, rfl, hnone⟩ := (h cursor hcursor _ _).mp hanswer
        rw [Option.map_eq_none_iff.mp hnone.symm] at hrows
        exact ⟨[rows], .last hrows, rfl⟩
    | next hanswer _ ih =>
        subst hc
        obtain ⟨rows, next, hrows, rfl, hsome⟩ := (h cursor hcursor _ _).mp hanswer
        obtain ⟨following, rfl, rfl⟩ := Option.map_eq_some_iff.mp hsome.symm
        have hfollowing : ∀ c ∈ some following, valid c := by
          rintro c ⟨⟩
          exact hvalid cursor rows following hrows
        obtain ⟨pages, hpages, rfl⟩ := ih hfollowing rfl
        exact ⟨rows :: pages, .next hrows hpages, rfl⟩
  · rintro ⟨rows, hwalk, rfl⟩
    induction hwalk with
    | last hrows => exact .last ((h _ hcursor _ _).mpr ⟨_, none, hrows, rfl, rfl⟩)
    | @next cursor rows following pages hrows _ ih =>
        have hfollowing : ∀ c ∈ some following, valid c := by
          rintro c ⟨⟩
          exact hvalid cursor rows following hrows
        exact .next ((h _ hcursor _ _).mpr ⟨_, some following, hrows, rfl, rfl⟩) (ih hfollowing)

/-- Pages that are pages of another listing as well, once their rows are rendered. -/
theorem Walk.map {answers : Option γ → List α → Option γ → Prop}
    {answers' : Option γ → List β → Option γ → Prop} {render : α → β}
    (h : ∀ cursor rows following, answers cursor rows following →
      answers' cursor (rows.map render) following) {cursor : Option γ} {pages : List (List α)}
    (hwalk : Walk answers cursor pages) :
    Walk answers' cursor (pages.map fun rows => rows.map render) := by
  induction hwalk with
  | last hrows => exact .last (h _ _ _ hrows)
  | next hrows _ ih => exact .next (h _ _ _ hrows) ih

/-- The same if the cursors are rendered as well. -/
theorem Walk.render {answers : Option γ → List α → Option γ → Prop}
    {rendered : Option δ → List β → Option δ → Prop} {encode : γ → δ} {render : α → β}
    (h : ∀ cursor rows following, answers cursor rows following →
      rendered (cursor.map encode) (rows.map render) (following.map encode))
    {cursor : Option γ} {pages : List (List α)} (hwalk : Walk answers cursor pages) :
    Walk rendered (cursor.map encode) (pages.map fun rows => rows.map render) := by
  induction hwalk with
  | last hrows => exact .last (h _ _ _ hrows)
  | next hrows _ ih => exact .next (h _ _ _ hrows) ih

/-- If the pages of one listing can be had from another, so can a walk. -/
theorem Walk.exists_of {answers : Option γ → List α → Option γ → Prop}
    {answers' : Option γ → List β → Option γ → Prop}
    (h : ∀ cursor rows following, answers cursor rows following →
      ∃ rows', answers' cursor rows' following) {cursor : Option γ} {pages : List (List α)}
    (hwalk : Walk answers cursor pages) : ∃ pages', Walk answers' cursor pages' := by
  induction hwalk with
  | last hrows =>
      obtain ⟨rows', hrows'⟩ := h _ _ _ hrows
      exact ⟨_, .last hrows'⟩
  | next hrows _ ih =>
      obtain ⟨rows', hrows'⟩ := h _ _ _ hrows
      obtain ⟨pages', hpages'⟩ := ih
      exact ⟨_, .next hrows' hpages'⟩

/-- There is one walk from a cursor, if there is one answer to a request. -/
theorem Walk.unique {answers : Option γ → List α → Option γ → Prop}
    (h : ∀ cursor rows following rows' following', answers cursor rows following →
      answers cursor rows' following' → rows = rows' ∧ following = following')
    {cursor : Option γ} {pages pages' : List (List α)} (hwalk : Walk answers cursor pages)
    (hwalk' : Walk answers cursor pages') : pages = pages' := by
  induction hwalk generalizing pages' with
  | last hrows =>
      cases hwalk' with
      | last hrows' => rw [(h _ _ _ _ _ hrows hrows').1]
      | next hrows' _ => exact absurd (h _ _ _ _ _ hrows hrows').2 (Option.some_ne_none _).symm
  | next hrows _ ih =>
      cases hwalk' with
      | last hrows' => exact absurd (h _ _ _ _ _ hrows hrows').2 (Option.some_ne_none _)
      | next hrows' hrest' =>
          obtain ⟨rfl, hfollowing⟩ := h _ _ _ _ _ hrows hrows'
          cases hfollowing
          rw [ih hrest']

/-! ## Pages of a listing -/

section Pages

variable (listed : List α) (beyond : α → α → Bool) (n : ℕ) (continues : ℕ → Bool)

/-- The rows beyond a row, or all of them. -/
def rowsBeyond : Option α → List α
  | none => listed
  | some a => listed.filter (beyond a)

/-- A page has at most `n` rows. Whether its last row is given as a cursor depends on how
many rows there were to choose from. -/
def Turns (cursor : Option α) (rows : List α) (following : Option α) : Prop :=
  rows = (rowsBeyond listed beyond cursor).take n ∧
    following = if continues (rowsBeyond listed beyond cursor).length then rows.getLast? else none

/-- Beyond the row at which the first `k` rows end are those after it. -/
def EndsAt (k : ℕ) : Prop :=
  ∀ a ∈ (listed.take k).getLast?, ∀ x ∈ listed, beyond a x = true ↔ x ∈ listed.drop k

instance decidableEndsAt [DecidableEq α] (k : ℕ) : Decidable (EndsAt listed beyond k) :=
  inferInstanceAs (Decidable (∀ a ∈ (listed.take k).getLast?, ∀ x ∈ listed,
    beyond a x = true ↔ x ∈ listed.drop k))

variable {listed beyond n continues}

theorem mem_of_rowsBeyond {cursor : Option α} {x : α} (h : x ∈ rowsBeyond listed beyond cursor) :
    x ∈ listed := by
  cases cursor with
  | none => exact h
  | some a => exact (List.mem_filter.mp h).1

theorem Turns.length_le {cursor following : Option α} {rows : List α}
    (h : Turns listed beyond n continues cursor rows following) : rows.length ≤ n := by
  rw [h.1]
  exact List.length_take_le n _

/-- A cursor is a row of its page. -/
theorem Turns.mem_rows {cursor : Option α} {a : α} {rows : List α}
    (h : Turns listed beyond n continues cursor rows (some a)) : a ∈ rows := by
  obtain ⟨-, hnext⟩ := h
  split_ifs at hnext
  exact List.mem_of_getLast? hnext.symm

theorem Turns.mem {cursor : Option α} {a : α} {rows : List α}
    (h : Turns listed beyond n continues cursor rows (some a)) : a ∈ listed := by
  have hrow := h.mem_rows
  rw [h.1] at hrow
  exact mem_of_rowsBeyond (List.mem_of_mem_take hrow)

/-- Nothing that is read from a cursor on lies outside of what is beyond it. -/
theorem mem_rowsBeyond_of_walk (htrans : ∀ a b c, beyond a b = true → beyond b c = true →
    beyond a c = true) {cursor : Option α} {pages : List (List α)}
    (h : Walk (Turns listed beyond n continues) cursor pages) :
    ∀ x ∈ pages.flatten, x ∈ rowsBeyond listed beyond cursor := by
  induction h with
  | last h =>
      intro x hx
      rw [List.flatten_singleton, h.1] at hx
      exact List.mem_of_mem_take hx
  | @next cursor rows a pages h _ ih =>
      intro x hx
      have ha := h.mem_rows
      rw [h.1] at ha
      rw [List.flatten_cons, List.mem_append, h.1] at hx
      rcases hx with hx | hx
      · exact List.mem_of_mem_take hx
      · have hbeyond := ih x hx
        have hfrom := List.mem_of_mem_take ha
        cases cursor with
        | none => exact mem_of_rowsBeyond hbeyond
        | some c =>
            obtain ⟨hlisted, hax⟩ := List.mem_filter.mp hbeyond
            obtain ⟨-, hca⟩ := List.mem_filter.mp hfrom
            exact List.mem_filter.mpr ⟨hlisted, htrans c a x hca hax⟩

/-- The last row of a page that begins at `k` is the one at which `k + n` rows end. -/
theorem getLast?_page (hn : 0 < n) {k : ℕ} (hk : k < listed.length) :
    ((listed.drop k).take n).getLast? = (listed.take (k + n)).getLast? := by
  have hne : (listed.drop k).take n ≠ [] := by
    intro hempty
    have := congrArg List.length hempty
    simp at this
    omega
  rw [List.take_add, List.getLast?_append_of_ne_nil _ hne]

/-- A listing in an order ends well everywhere, if that is what is meant by beyond. -/
theorem endsAt_of_pairwise (hsorted : listed.Pairwise fun a b => beyond a b = true)
    (hasymm : ∀ a b, beyond a b = true → beyond b a = false) (k : ℕ) : EndsAt listed beyond k := by
  intro a ha x hx
  obtain ⟨init, hinit⟩ := List.getLast?_eq_some_iff.mp ha
  rw [← List.take_append_drop k listed, List.pairwise_append, hinit,
    List.pairwise_append] at hsorted
  obtain ⟨⟨-, -, hbefore⟩, -, hafter⟩ := hsorted
  constructor
  · intro hbeyond
    rw [← List.take_append_drop k listed, List.mem_append, hinit, List.mem_append,
      List.mem_singleton] at hx
    rcases hx with (hx | rfl) | hx
    · have hback := hbefore x hx a List.mem_cons_self
      rw [hasymm a x hbeyond] at hback
      cases hback
    · exact absurd (hbeyond.symm.trans (hasymm x x hbeyond)) Bool.false_ne_true.symm
    · exact hx
  · exact hafter a (by simp) x

variable (hnodup : listed.Nodup)

include hnodup

theorem not_mem_drop_of_mem_take {k : ℕ} {x : α} (hx : x ∈ listed.take k) : x ∉ listed.drop k := by
  rw [← List.take_append_drop k listed, List.nodup_append] at hnodup
  intro hdrop
  exact hnodup.2.2 x hx x hdrop rfl

/-- If a page ends well, the rows beyond its end are those that are left. -/
theorem EndsAt.rowsBeyond_eq {k : ℕ} (h : EndsAt listed beyond k) {a : α}
    (ha : (listed.take k).getLast? = some a) :
    rowsBeyond listed beyond (some a) = listed.drop k := by
  have hends := h a ha
  have htake : (listed.take k).filter (beyond a) = [] := by
    rw [List.filter_eq_nil_iff]
    intro x hx hbeyond
    exact not_mem_drop_of_mem_take hnodup hx ((hends x (List.mem_of_mem_take hx)).mp hbeyond)
  have hdrop : (listed.drop k).filter (beyond a) = listed.drop k := by
    rw [List.filter_eq_self]
    intro x hx
    exact (hends x (List.mem_of_mem_drop hx)).mpr hx
  calc listed.filter (beyond a)
      = (listed.take k ++ listed.drop k).filter (beyond a) := by rw [List.take_append_drop]
    _ = listed.drop k := by rw [List.filter_append, htake, hdrop, List.nil_append]

/-- If there is a further page only when there are further rows, no page of a listing is empty
that has rows. -/
theorem Walk.ne_nil (hn : 0 < n) (hmore : ∀ m, continues m = true → n < m)
    (hends : ∀ k, EndsAt listed beyond k) {k : ℕ} {cursor : Option α} {pages : List (List α)}
    (hwalk : Walk (Turns listed beyond n continues) cursor pages)
    (hcursor : rowsBeyond listed beyond cursor = listed.drop k) (hk : k < listed.length) :
    ∀ rows ∈ pages, rows ≠ [] := by
  have hpage : (listed.drop k).take n ≠ [] := by
    rw [← List.length_pos_iff, List.length_take, List.length_drop]
    omega
  induction hwalk generalizing k with
  | last h =>
      intro rows hrows
      rw [List.mem_singleton.mp hrows, h.1, hcursor]
      exact hpage
  | @next cursor rows a pages h _ ih =>
      obtain ⟨hrows, hnext⟩ := h
      rw [hcursor] at hrows hnext
      have hlonger : n < listed.length - k := by
        split_ifs at hnext with hcont
        rw [← List.length_drop]
        exact hmore _ hcont
      have hlast : (listed.take (k + n)).getLast? = some a := by
        rw [← getLast?_page hn hk, ← hrows]
        split_ifs at hnext
        exact hnext.symm
      have hbeyond := (hends (k + n)).rowsBeyond_eq hnodup hlast
      have hleft : k + n < listed.length := by omega
      intro rows hmem
      rcases List.mem_cons.mp hmem with rfl | hmem
      · rw [hrows]
        exact hpage
      · refine ih hbeyond hleft ?_ rows hmem
        rw [← List.length_pos_iff, List.length_take, List.length_drop]
        omega

variable (hn : 0 < n) (hcontinues : ∀ m, n < m → continues m = true)

include hn hcontinues

/-- If every page ends well that is followed by another, the walk reads the listing. -/
theorem exists_walk {k : ℕ} {cursor : Option α}
    (hcursor : rowsBeyond listed beyond cursor = listed.drop k)
    (hends : ∀ i, k + i * n < listed.length → continues (listed.length - (k + i * n)) = true →
      EndsAt listed beyond (k + i * n + n)) :
    ∃ pages, Walk (Turns listed beyond n continues) cursor pages ∧
    pages.flatten = listed.drop k := by
  induction hleft : listed.length - k using Nat.strongRecOn generalizing k cursor with
  | ind left ih =>
      subst hleft
      have hlength : (listed.drop k).length = listed.length - k := List.length_drop
      have hanswer : Turns listed beyond n continues cursor ((listed.drop k).take n)
          (if continues (listed.length - k) then ((listed.drop k).take n).getLast? else none) := by
        refine ⟨by rw [hcursor], ?_⟩
        rw [hcursor, hlength]
      by_cases hmore : k < listed.length ∧ continues (listed.length - k) = true
      · obtain ⟨hk, hcont⟩ := hmore
        rw [if_pos hcont, getLast?_page hn hk] at hanswer
        have hne : listed.take (k + n) ≠ [] := by
          rw [← List.length_pos_iff, List.length_take]
          omega
        obtain ⟨a, ha⟩ := Option.isSome_iff_exists.mp (List.getLast?_isSome.mpr hne)
        rw [ha] at hanswer
        have hend : EndsAt listed beyond (k + n) := by
          have := hends 0 (by simpa using hk) (by simpa using hcont)
          simpa using this
        obtain ⟨pages, hpages, hflatten⟩ := ih (listed.length - (k + n)) (by omega)
          (hend.rowsBeyond_eq hnodup ha) (fun i hi hcont => by
            have hshift : k + n + i * n = k + (i + 1) * n := by rw [Nat.succ_mul]; omega
            rw [hshift] at hi hcont ⊢
            exact hends (i + 1) hi hcont) rfl
        refine ⟨_, .next hanswer hpages, ?_⟩
        rw [List.flatten_cons, hflatten, ← List.drop_drop, List.take_append_drop]
      · have hlast : (if continues
            (listed.length - k) then ((listed.drop k).take n).getLast? else none) = none := by
          split_ifs with hcont
          · have hempty : listed.drop k = [] := by
              rw [List.drop_eq_nil_iff]
              by_contra hk
              exact hmore ⟨by omega, hcont⟩
            rw [hempty, List.take_nil, List.getLast?_nil]
          · rfl
        rw [hlast] at hanswer
        refine ⟨_, .last hanswer, ?_⟩
        rw [List.flatten_singleton]
        apply List.take_of_length_le
        rw [hlength]
        by_contra hlong
        exact hmore ⟨by omega, hcontinues _ (by omega)⟩

/-- If a walk reads each row once, in whatever order, every page ends well that is followed
by another. -/
theorem endsAt_of_walk (htrans : ∀ a b c, beyond a b = true → beyond b c = true → beyond a c = true)
    {k : ℕ} {cursor : Option α} {pages : List (List α)}
    (hwalk : Walk (Turns listed beyond n continues) cursor pages)
    (hcursor : rowsBeyond listed beyond cursor = listed.drop k)
    (hflatten : pages.flatten.Perm (listed.drop k)) (i : ℕ) (hi : k + i * n < listed.length)
    (hcont : continues (listed.length - (k + i * n)) = true) :
    EndsAt listed beyond (k + i * n + n) := by
  have hlength : (listed.drop k).length = listed.length - k := List.length_drop
  have hk : k < listed.length := by omega
  have hgoes : continues (listed.length - k) = true := by
    rcases Nat.eq_zero_or_pos i with rfl | hpos
    · simpa using hcont
    · apply hcontinues
      have : n ≤ i * n := Nat.le_mul_of_pos_left n hpos
      omega
  induction hwalk generalizing k i with
  | @last cursor rows h =>
      -- There are rows left, so a further cursor is given.
      obtain ⟨hrows, hnext⟩ := h
      rw [hcursor, hlength, if_pos hgoes, hrows, hcursor, getLast?_page hn hk] at hnext
      have hempty := List.getLast?_eq_none_iff.mp hnext.symm
      have := congrArg List.length hempty
      rw [List.length_take, List.length_nil] at this
      omega
  | @next cursor rows a pages h rest ih =>
      obtain ⟨hrows, hnext⟩ := h
      rw [hcursor] at hrows
      rw [hcursor, hlength, if_pos hgoes, hrows, getLast?_page hn hk] at hnext
      have hrest : pages.flatten.Perm (listed.drop (k + n)) := by
        rw [List.flatten_cons, hrows] at hflatten
        have hsplit : ((listed.drop k).take n ++ pages.flatten).Perm
            ((listed.drop k).take n ++ (listed.drop k).drop n) := by
          rw [List.take_append_drop]
          exact hflatten
        rw [← List.drop_drop]
        exact (List.perm_append_left_iff _).mp hsplit
      have hend : EndsAt listed beyond (k + n) := by
        intro b hb x hx
        rw [hb, Option.some.injEq] at hnext
        subst hnext
        constructor
        · intro hbeyond
          by_contra hdrop
          have htake : x ∈ listed.take (k + n) := by
            rw [← List.take_append_drop (k + n) listed, List.mem_append] at hx
            exact hx.resolve_right hdrop
          -- The next page begins with a row that has been read before.
          have hmem : x ∈ (listed.take (k + n)).filter (beyond a) :=
            List.mem_filter.mpr ⟨htake, hbeyond⟩
          obtain ⟨first, later, hcons⟩ := List.exists_cons_of_ne_nil (List.ne_nil_of_mem hmem)
          have hfirst : first ∈ listed.take (k + n) := by
            apply List.mem_of_mem_filter (p := beyond a)
            rw [hcons]
            exact List.mem_cons_self
          have hpage : first ∈ (rowsBeyond listed beyond (some a)).take n := by
            rw [rowsBeyond, ← List.take_append_drop (k + n) listed, List.filter_append, hcons,
              List.cons_append]
            obtain ⟨m, rfl⟩ := Nat.exists_eq_succ_of_ne_zero (Nat.pos_iff_ne_zero.mp hn)
            rw [List.take_succ_cons]
            exact List.mem_cons_self
          have hread : first ∈ pages.flatten := by
            cases rest with
            | last h =>
                rw [List.flatten_singleton, h.1]
                exact hpage
            | next h _ =>
                rw [List.flatten_cons, List.mem_append, h.1]
                exact .inl hpage
          exact not_mem_drop_of_mem_take hnodup hfirst (hrest.mem_iff.mp hread)
        · intro hdrop
          have hread := mem_rowsBeyond_of_walk htrans rest x (hrest.mem_iff.mpr hdrop)
          exact (List.mem_filter.mp hread).2
      cases i with
      | zero => simpa using hend
      | succ i =>
          have hshift : k + (i + 1) * n = k + n + i * n := by rw [Nat.succ_mul]; omega
          rw [hshift] at hi hcont ⊢
          refine ih (hend.rowsBeyond_eq hnodup hnext.symm) hrest i hi hcont List.length_drop
            (by omega) ?_
          rcases Nat.eq_zero_or_pos i with rfl | hpos
          · simpa using hcont
          · apply hcontinues
            have : n ≤ i * n := Nat.le_mul_of_pos_left n hpos
            omega

/-- Each row is read once, in whatever order, exactly if every page ends well that is
followed by another. -/
theorem walk_perm_iff (htrans : ∀ a b c, beyond a b = true → beyond b c = true →
    beyond a c = true) :
    (∃ pages, Walk (Turns listed beyond n continues) none pages ∧ pages.flatten.Perm listed) ↔
      ∀ i, i * n < listed.length → continues (listed.length - i * n) = true →
        EndsAt listed beyond (i * n + n) := by
  constructor
  · rintro ⟨pages, hwalk, hflatten⟩ i hi hcont
    have h := endsAt_of_walk hnodup hn hcontinues htrans hwalk (k := 0) rfl hflatten i
    rw [Nat.zero_add] at h
    exact h hi hcont
  · intro hends
    have hfirst : rowsBeyond listed beyond none = listed.drop 0 := rfl
    have h := exists_walk hnodup hn hcontinues hfirst
    simp only [Nat.zero_add, List.drop_zero] at h
    obtain ⟨pages, hwalk, hflatten⟩ := h hends
    exact ⟨pages, hwalk, hflatten ▸ List.Perm.refl _⟩

/-- Then they are read in the order of the listing. -/
theorem walk_iff (htrans : ∀ a b c, beyond a b = true → beyond b c = true → beyond a c = true) :
    (∃ pages, Walk (Turns listed beyond n continues) none pages ∧ pages.flatten = listed) ↔
      ∀ i, i * n < listed.length → continues (listed.length - i * n) = true →
        EndsAt listed beyond (i * n + n) := by
  constructor
  · rintro ⟨pages, hwalk, hflatten⟩
    apply (walk_perm_iff hnodup hn hcontinues htrans).mp
    exact ⟨pages, hwalk, hflatten ▸ List.Perm.refl _⟩
  · intro hends
    have hfirst : rowsBeyond listed beyond none = listed.drop 0 := rfl
    have h := exists_walk hnodup hn hcontinues hfirst
    simp only [Nat.zero_add, List.drop_zero] at h
    exact h hends

end Pages

/-! ## The first page -/

/-- A row is on the first page exactly if fewer rows than fit come before it. -/
theorem mem_take_filter_iff [DecidableEq α] {listed : List α} (hnodup : listed.Nodup)
    {p : α → Bool} {n : ℕ} {a : α} :
    a ∈ (listed.filter p).take n ↔
      (a ∈ listed ∧ p a = true) ∧ (listed.takeWhile (· ≠ a)).countP p < n := by
  induction listed generalizing n with
  | nil => simp
  | cons b rest ih =>
      obtain ⟨hb, hrest⟩ := List.nodup_cons.mp hnodup
      by_cases heq : b = a
      · subst heq
        rw [List.takeWhile_cons_of_neg (by simp)]
        by_cases hp : p b = true
        · rw [List.filter_cons_of_pos hp]
          cases n with
          | zero => simp
          | succ n => simp [hp]
        · rw [List.filter_cons_of_neg hp]
          have hout : b ∉ (rest.filter p).take n := by
            intro hmem
            exact hb (List.mem_of_mem_filter (List.mem_of_mem_take hmem))
          exact iff_of_false hout (fun h => hp h.1.2)
      · have hother : a ≠ b := Ne.symm heq
        rw [List.takeWhile_cons_of_pos (by simpa using heq), List.mem_cons, or_iff_right hother]
        by_cases hp : p b = true
        · rw [List.filter_cons_of_pos hp, List.countP_cons_of_pos hp]
          cases n with
          | zero => simp
          | succ n =>
              rw [List.take_succ_cons, List.mem_cons, or_iff_right hother, ih hrest,
                Nat.add_lt_add_iff_right]
        · rw [List.filter_cons_of_neg hp, List.countP_cons_of_neg hp]
          exact ih hrest

/-! ## Rendered pages -/

theorem map_eq_map_of_injOn {f : α → β} {first second : List α}
    (hf : ∀ a ∈ first, ∀ b ∈ second, f a = f b → a = b) (h : first.map f = second.map f) :
    first = second := by
  induction first generalizing second with
  | nil => exact (List.map_eq_nil_iff.mp h.symm).symm
  | cons a first ih =>
      cases second with
      | nil => cases h
      | cons b second =>
          rw [List.map_cons, List.map_cons, List.cons.injEq] at h
          have hab := hf a List.mem_cons_self b List.mem_cons_self h.1
          have hrest := ih (fun a ha b hb => hf a (List.mem_cons_of_mem _ ha) b
            (List.mem_cons_of_mem _ hb)) h.2
          rw [hab, hrest]

/-- Rows that can be told apart when they are rendered are read as well as their views. -/
theorem rendered_walk_iff {listed : List α} {beyond : α → α → Bool} {n : ℕ} {continues : ℕ → Bool}
    {rendered : Option δ → List β → Option δ → Prop} {encode : α → δ} {render : α → β}
    (htrans : ∀ a b c, beyond a b = true → beyond b c = true → beyond a c = true)
    (hrender : ∀ a ∈ listed, ∀ b ∈ listed, render a = render b → a = b)
    (h : ∀ cursor, (∀ a ∈ cursor, a ∈ listed) → ∀ views following,
      rendered (cursor.map encode) views following ↔
        ∃ rows next, Turns listed beyond n continues cursor rows next ∧ views = rows.map render ∧
          following = next.map encode) :
    (∃ pages, Walk rendered none pages ∧ pages.flatten = listed.map render) ↔
      ∃ pages, Walk (Turns listed beyond n continues) none pages ∧ pages.flatten = listed := by
  have hnone : ∀ c ∈ (none : Option α), c ∈ listed := by simp
  have hmap (pages : List (List β)) : Walk rendered none pages ↔
      ∃ rows, Walk (Turns listed beyond n continues) none rows ∧
        pages = rows.map fun page => page.map render :=
    walk_map_iff (fun _ _ _ hturns => hturns.mem) h hnone
  constructor
  · rintro ⟨pages, hwalk, hflatten⟩
    obtain ⟨rows, hrows, rfl⟩ := (hmap pages).mp hwalk
    refine ⟨rows, hrows, ?_⟩
    rw [← List.map_flatten] at hflatten
    apply map_eq_map_of_injOn _ hflatten
    intro a ha
    exact hrender a (mem_rowsBeyond_of_walk htrans hrows a ha)
  · rintro ⟨rows, hrows, hflatten⟩
    refine ⟨_, (hmap _).mpr ⟨rows, hrows, rfl⟩, ?_⟩
    rw [← List.map_flatten, hflatten]

/-- The same if the rows may be read in any order. -/
theorem rendered_walk_perm_iff {listed : List α} {beyond : α → α → Bool} {n : ℕ}
    {continues : ℕ → Bool} {rendered : Option δ → List β → Option δ → Prop} {encode : α → δ}
    {render : α → β}
    (htrans : ∀ a b c, beyond a b = true → beyond b c = true → beyond a c = true)
    (hnodup : listed.Nodup) (hrender : ∀ a ∈ listed, ∀ b ∈ listed, render a = render b → a = b)
    (h : ∀ cursor, (∀ a ∈ cursor, a ∈ listed) → ∀ views following,
      rendered (cursor.map encode) views following ↔
        ∃ rows next, Turns listed beyond n continues cursor rows next ∧ views = rows.map render ∧
          following = next.map encode) :
    (∃ pages, Walk rendered none pages ∧ pages.flatten.Perm (listed.map render)) ↔
      ∃ pages, Walk (Turns listed beyond n continues) none pages ∧ pages.flatten.Perm listed := by
  have hnone : ∀ c ∈ (none : Option α), c ∈ listed := by simp
  have hmap (pages : List (List β)) : Walk rendered none pages ↔
      ∃ rows, Walk (Turns listed beyond n continues) none rows ∧
        pages = rows.map fun page => page.map render :=
    walk_map_iff (fun _ _ _ hturns => hturns.mem) h hnone
  constructor
  · rintro ⟨pages, hwalk, hflatten⟩
    obtain ⟨rows, hrows, rfl⟩ := (hmap pages).mp hwalk
    refine ⟨rows, hrows, ?_⟩
    rw [← List.map_flatten] at hflatten
    have hviews : (listed.map render).Nodup :=
      hnodup.map_on hrender
    have hread : rows.flatten.Nodup := List.Nodup.of_map _ (hflatten.nodup_iff.mpr hviews)
    rw [List.perm_ext_iff_of_nodup hread hnodup]
    intro a
    constructor
    · exact mem_rowsBeyond_of_walk htrans hrows a
    · intro ha
      obtain ⟨b, hb, hsame⟩ := List.mem_map.mp (hflatten.mem_iff.mpr (List.mem_map_of_mem ha))
      rw [← hrender b (mem_rowsBeyond_of_walk htrans hrows b hb) a ha hsame]
      exact hb
  · rintro ⟨rows, hrows, hflatten⟩
    refine ⟨_, (hmap _).mpr ⟨rows, hrows, rfl⟩, ?_⟩
    rw [← List.map_flatten]
    exact hflatten.map render

/-! ## Sorted rows -/

section Sorted

variable (r : α → α → Prop) [DecidableRel r]

/-- A row that is selected is inserted among the rows selected. -/
theorem filter_orderedInsert_of_pos [IsTrans α r] {rows : List α} (hsorted : rows.Pairwise r)
    {a : α} {p : α → Bool} (ha : p a = true) :
    (rows.orderedInsert r a).filter p = (rows.filter p).orderedInsert r a := by
  induction rows with
  | nil => simp [ha]
  | cons b rest ih =>
      rw [List.pairwise_cons] at hsorted
      by_cases hab : r a b
      · rw [List.orderedInsert_cons_of_le r _ hab, List.filter_cons_of_pos ha]
        have hall : ∀ c ∈ (b :: rest).filter p, r a c := by
          intro c hc
          rcases List.mem_cons.mp (List.mem_filter.mp hc).1 with rfl | hc
          · exact hab
          · exact IsTrans.trans a b c hab (hsorted.1 c hc)
        cases hselected : (b :: rest).filter p with
        | nil => simp
        | cons c selected =>
            have hac := hall c (hselected ▸ List.mem_cons_self)
            rw [List.orderedInsert_cons_of_le r _ hac]
      · rw [List.orderedInsert_of_not_le r _ hab]
        by_cases hb : p b = true
        · rw [List.filter_cons_of_pos hb, List.filter_cons_of_pos hb, ih hsorted.2,
            List.orderedInsert_of_not_le r _ hab]
        · rw [List.filter_cons_of_neg hb, List.filter_cons_of_neg hb, ih hsorted.2]

theorem filter_orderedInsert_of_neg {rows : List α} {a : α} {p : α → Bool} (ha : ¬ p a = true) :
    (rows.orderedInsert r a).filter p = rows.filter p := by
  induction rows with
  | nil => simp [ha]
  | cons b rest ih =>
      by_cases hab : r a b
      · rw [List.orderedInsert_cons_of_le r _ hab, List.filter_cons_of_neg ha]
      · rw [List.orderedInsert_of_not_le r _ hab, List.filter_cons, List.filter_cons, ih]

/-- It does not matter whether rows are selected before they are sorted or afterwards. -/
theorem insertionSort_filter [Std.Total r] [IsTrans α r] (rows : List α) (p : α → Bool) :
    (rows.filter p).insertionSort r = (rows.insertionSort r).filter p := by
  induction rows with
  | nil => rfl
  | cons a rest ih =>
      rw [List.insertionSort_cons]
      by_cases ha : p a = true
      · rw [List.filter_cons_of_pos ha, List.insertionSort_cons, ih,
          filter_orderedInsert_of_pos r (List.pairwise_insertionSort r rest) ha]
      · rw [List.filter_cons_of_neg ha, ih, filter_orderedInsert_of_neg r ha]

end Sorted

end Voxply.Math
