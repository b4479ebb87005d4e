/-
# Sessions accounted for

The admin sees of each user how many hubs and how many live sessions there are, and can
revoke the sessions.  The list counts sessions by a condition of a join, the revocation
by that of its update, and a check of one session by a rule of its own.  The three agree
on every content of the tables and at any time, and the pages of the list make up all
users.
-/

import Voxply.Farm.Admin
import Voxply.Farm.SessionRevocation
import Voxply.Math.Paging
import Mathlib.Data.String.Basic

namespace Voxply.Farm

open Voxply.Math Voxply.Identity
open Voxply.Hub (SqlError StatusCode)

/-! ## What is to hold -/

/-- How many sessions of a user a check reports as not revoked. -/
def FarmState.liveSessions (s : FarmState) (user : String) : ℕ :=
  (s.db.farmSessions.rows.filter fun row =>
    row.publicKey = user ∧ ((revokeCheck row.jti).run s).1 = .ok false).length

/-- The hubs of a user that are not deleted. -/
def Db.hubsOf (db : Db) (user : String) : List HubRow :=
  db.hubs.rows.filter fun hub => hub.ownerPubkey = user ∧ hub.deletedAt = none

/-- What is listed of a user is so. -/
structure EntryRight (s : FarmState) (entry : UserEntry) : Prop where
  user : ∃ row ∈ s.db.farmUsers.rows, row.publicKey = entry.publicKey ∧
    row.firstSeenAt = entry.firstSeenAt ∧ row.lastSeenAt = entry.lastSeenAt
  hubs : entry.hubsOwned = (s.db.hubsOf entry.publicKey).length
  sessions : entry.activeSessions = s.liveSessions entry.publicKey

/-- A page of the list, with the cursor for the next one: the key of its last user. -/
def ListsPage (farm : FarmConfig) (bearer : Bearer) (limit : Option Int64) (s : FarmState)
    (cursor : Option String) (entries : List UserEntry) (following : Option String) : Prop :=
  (∃ total, ((listUsers farm bearer ⟨limit, cursor⟩).run s).1 = .ok ⟨entries, total⟩) ∧
    following = entries.getLast?.map (·.publicKey)

/-- The keys of the users, in their order. -/
def Db.userKeys (db : Db) : List String :=
  (db.farmUsers.rows.map (·.publicKey)).insertionSort (· ≤ ·)

/-- The list, its pages and a revocation, when they are asked for one at a time. -/
structure AccountsRight (farm : FarmConfig) (s : FarmState) : Prop where
  entries : ∀ bearer query response, ((listUsers farm bearer query).run s).1 = .ok response →
    ∀ entry ∈ response.users, EntryRight s entry
  walk : ∀ bearer admin, ((requireAdmin farm bearer).run s).1 = .ok admin → ∀ limit,
    ∃ pages, Walk (ListsPage farm bearer limit s) none pages
  pages : ∀ bearer limit pages, Walk (ListsPage farm bearer limit s) none pages →
    pages.flatten.map (·.publicKey) = s.db.userKeys
  revokes : ∀ bearer user n, ((revokeUserSessions farm bearer user).run s).1 = .ok n →
    n = s.liveSessions user ∧
      ((revokeUserSessions farm bearer user).run s).2.liveSessions user = 0

/-- After a revocation, until a login or a renewal stores a session of the user. -/
def RevokedUntilLogin (farm : FarmConfig) (moves : List (Move SessionRequest)) (s : FarmState) :
    Prop :=
  ∀ pre revocation later, (sessionRun farm moves s).history = pre ++ revocation :: later →
    ∀ user ∈ revokes? farm revocation.request (sentBy revocation.job pre),
      (∀ e ∈ later, ∀ row ∈ newSession? e, row.publicKey ≠ user) →
        (sessionRun farm moves s).state.liveSessions user = 0

/-! ## Live sessions -/

section Live

variable {s t : FarmState} {row : FarmSessionRow} {user : String}

/-- A check reports a stored session as the list and the revocation count it. -/
theorem revokeCheck_eq_false_iff (hrow : row ∈ s.db.farmSessions.rows) :
    ((revokeCheck row.jti).run s).1 = .ok false ↔ row.isActive s.clock = true := by
  have hclock : unixNow.run s = (.ok s.clock, s) := rfl
  have hfetch : (fetch (·.farmSessions.find? row.jti)).run s = (.ok (some row), s) := by
    rw [fetch, Prog.run_query, Table.find?_eq_some_iff.mpr ⟨hrow, rfl⟩]
  rw [revokeCheck, Prog.run_bind_of_ok hclock, Prog.run_bind_of_ok hfetch]
  show Except.ok (row.revokedAt.isSome || decide (s.clock ≥ row.expiresAt)) = .ok false ↔ _
  simp [FarmSessionRow.isActive]

theorem liveSessions_eq (s : FarmState) (user : String) :
    s.liveSessions user = (s.db.activeSessions user s.clock).length := by
  have hrows : (s.db.farmSessions.rows.filter fun row =>
      row.publicKey = user ∧ ((revokeCheck row.jti).run s).1 = .ok false) =
        s.db.activeSessions user s.clock := by
    apply List.filter_congr
    intro row hrow
    rw [Bool.eq_iff_iff]
    simp [revokeCheck_eq_false_iff hrow]
  rw [FarmState.liveSessions, hrows]

/-- No session of the user is live at this time. -/
def NoneLive (user : String) (now : Int) (t : FarmState) : Prop :=
  ∀ row ∈ t.db.farmSessions.rows, row.publicKey = user → row.revokedAt = none →
    row.expiresAt ≤ now

theorem NoneLive.liveSessions {now : Int} (h : NoneLive user now t) (hclock : now ≤ t.clock) :
    t.liveSessions user = 0 := by
  rw [liveSessions_eq, List.length_eq_zero_iff, Db.activeSessions, List.filter_eq_nil_iff]
  intro row hrow
  simp only [FarmSessionRow.isActive, Bool.and_eq_true, decide_eq_true_eq,
    Option.isNone_iff_eq_none]
  rintro ⟨huser, hlive, hexpires⟩
  have := h row hrow huser hlive
  omega

/-- Revoking leaves nothing live, and nothing that is revoked comes to life. -/
theorem noneLive_revoked (user : String) (now : Int) (t : FarmState) :
    NoneLive user now (written (revokeSessions user now) t) := by
  intro row hrow huser hlive
  exact (live_of_revokeSessions hrow hlive).2 huser

theorem NoneLive.revoke {now now' : Int} {other : String} (h : NoneLive user now t) :
    NoneLive user now (written (revokeSessions other now') t) := by
  intro row hrow huser hlive
  exact h row (live_of_revokeSessions hrow hlive).1 huser hlive

end Live

/-! ## Entries -/

section Entries

variable {s : FarmState} {cursor : Option String} {limit : ℕ} {key : String}

/-- The rows of the joins from a cursor on. -/
def Db.joinedBeyond (db : Db) (now : Int) (cursor : Option String) : List JoinedRow :=
  (db.joinedUsers now).filter fun row => cursor.all (· < row.key)

/-- The joins have every user and nobody else. -/
theorem exists_mem_joinedUsers {db : Db} {now : Int} {row : FarmUserRow} :
    (∃ hub session, ((row, hub), session) ∈ db.joinedUsers now) ↔ row ∈ db.farmUsers.rows := by
  simp only [Db.joinedUsers, exists_mem_leftJoin]

theorem mem_joinedBeyond_key {db : Db} (now : Int) :
    (∃ row ∈ db.joinedBeyond now cursor, row.key = key) ↔
      key ∈ rowsBeyond db.userKeys (fun a b => decide (a < b)) cursor := by
  have hkeys : key ∈ rowsBeyond db.userKeys (fun a b => decide (a < b)) cursor ↔
      (∃ row ∈ db.farmUsers.rows, row.publicKey = key) ∧ cursor.all (· < key) = true := by
    cases cursor with
    | none => simp [rowsBeyond, Db.userKeys]
    | some a => simp [rowsBeyond, Db.userKeys]
  rw [hkeys]
  constructor
  · rintro ⟨⟨⟨user, hub⟩, session⟩, hrow, rfl⟩
    obtain ⟨hjoined, hbeyond⟩ := List.mem_filter.mp hrow
    exact ⟨⟨user, exists_mem_joinedUsers.mp ⟨hub, session, hjoined⟩, rfl⟩, hbeyond⟩
  · rintro ⟨⟨user, huser, rfl⟩, hbeyond⟩
    obtain ⟨hub, session, hjoined⟩ := exists_mem_joinedUsers.mpr huser
    exact ⟨((user, hub), session), List.mem_filter.mpr ⟨hjoined, hbeyond⟩, rfl⟩

theorem pairwise_userKeys (db : Db) : db.userKeys.Pairwise (· < ·) := by
  have hnodup : db.userKeys.Nodup :=
    (List.perm_insertionSort _ _).nodup_iff.mpr db.farmUsers.nodup
  have hsorted : db.userKeys.Pairwise (· ≤ ·) := List.pairwise_insertionSort _ _
  exact (hsorted.and hnodup).imp fun h => lt_of_le_of_ne h.1 h.2

/-- The groups are those of the users from the cursor on, in the order of their keys. -/
theorem groupKeys_eq (db : Db) (now : Int) (cursor : Option String) :
    ((db.joinedBeyond now cursor).map JoinedRow.key).dedup.insertionSort (· ≤ ·) =
      rowsBeyond db.userKeys (fun a b => decide (a < b)) cursor := by
  have hnodup : (((db.joinedBeyond now cursor).map JoinedRow.key).dedup.insertionSort
      (· ≤ ·)).Nodup := (List.perm_insertionSort _ _).nodup_iff.mpr (List.nodup_dedup _)
  have hleft : (((db.joinedBeyond now cursor).map JoinedRow.key).dedup.insertionSort
      (· ≤ ·)).Pairwise (· < ·) :=
    ((List.pairwise_insertionSort _ _).and hnodup).imp fun h => lt_of_le_of_ne h.1 h.2
  have hright : (rowsBeyond db.userKeys (fun a b => decide (a < b)) cursor).Pairwise (· < ·) := by
    cases cursor with
    | none => exact pairwise_userKeys db
    | some a => exact (pairwise_userKeys db).filter _
  apply hleft.eq_of_mem_iff hright
  intro key
  rw [List.mem_insertionSort, List.mem_dedup, List.mem_map]
  exact mem_joinedBeyond_key now

/-- A group counts each hub and each session once, however often the other join repeats
it. -/
theorem entryRight_of_group {row : FarmUserRow} (hrow : row ∈ s.db.farmUsers.rows)
    (hbeyond : cursor.all (· < row.publicKey) = true) :
    ∃ entry, userEntry ((s.db.joinedBeyond s.clock cursor).filter fun joined =>
        joined.key = row.publicKey) = some entry ∧ entry.publicKey = row.publicKey ∧
      EntryRight s entry := by
  have hmem : ∀ joined : JoinedRow, joined ∈ (s.db.joinedBeyond s.clock cursor).filter
      (fun joined => joined.key = row.publicKey) ↔
        joined ∈ s.db.joinedUsers s.clock ∧ joined.1.1 = row := by
    rintro ⟨⟨user, hub⟩, session⟩
    rw [List.mem_filter, Db.joinedBeyond, List.mem_filter, decide_eq_true_eq]
    constructor
    · rintro ⟨⟨hjoined, -⟩, hkey⟩
      have huser := exists_mem_joinedUsers.mp ⟨hub, session, hjoined⟩
      exact ⟨hjoined, s.db.farmUsers.eq_of_key_eq huser hrow hkey⟩
    · rintro ⟨hjoined, rfl⟩
      exact ⟨⟨hjoined, hbeyond⟩, rfl⟩
  generalize hgroup : (s.db.joinedBeyond s.clock cursor).filter
    (fun joined => joined.key = row.publicKey) = group at hmem
  have hne : group ≠ [] := by
    obtain ⟨hub, session, hjoined⟩ := exists_mem_joinedUsers.mpr hrow
    exact List.ne_nil_of_mem ((hmem ((row, hub), session)).mpr ⟨hjoined, rfl⟩)
  obtain ⟨first, hfirst⟩ := Option.isSome_iff_exists.mp (List.isSome_head?.mpr hne)
  have huser : first.1.1 = row := ((hmem first).mp (List.mem_of_head? hfirst)).2
  have hhubs : countDistinct (group.map fun joined => joined.1.2.map (·.id)) =
      (s.db.hubsOf row.publicKey).length := by
    have hnodup : ((s.db.hubsOf row.publicKey).map HubRow.id).Nodup :=
      s.db.hubs.nodup.sublist (List.filter_sublist.map _)
    rw [countDistinct_eq hnodup, List.length_map]
    intro id
    simp only [List.mem_map, Db.hubsOf, List.mem_filter, Bool.decide_and, Bool.and_eq_true,
      decide_eq_true_eq]
    constructor
    · rintro ⟨⟨⟨user, hub?⟩, session⟩, hjoined, hid⟩
      obtain ⟨hub, rfl, rfl⟩ := Option.map_eq_some_iff.mp hid
      obtain ⟨hjoined, rfl⟩ := (hmem _).mp hjoined
      obtain ⟨-, hhub, hon⟩ := mem_leftJoin_some.mp (exists_mem_leftJoin.mp ⟨session, hjoined⟩)
      rw [Bool.and_eq_true, decide_eq_true_eq, HubRow.isKept, Option.isNone_iff_eq_none] at hon
      exact ⟨hub, ⟨hhub, hon⟩, rfl⟩
    · rintro ⟨hub, ⟨hhub, hon⟩, rfl⟩
      have hpair : (row, some hub) ∈ leftJoin s.db.farmUsers.rows s.db.hubs.rows
          fun u h => h.ownerPubkey = u.publicKey && h.isKept := by
        apply mem_leftJoin_some.mpr
        simpa [HubRow.isKept] using ⟨hrow, hhub, hon⟩
      obtain ⟨session, hjoined⟩ := exists_mem_leftJoin.mpr hpair
      exact ⟨((row, some hub), session), (hmem _).mpr ⟨hjoined, rfl⟩, rfl⟩
  have hsessions : countDistinct (group.map fun joined => joined.2.map (·.jti)) =
      s.liveSessions row.publicKey := by
    have hnodup : ((s.db.activeSessions row.publicKey s.clock).map FarmSessionRow.jti).Nodup :=
      s.db.farmSessions.nodup.sublist (List.filter_sublist.map _)
    rw [liveSessions_eq, countDistinct_eq hnodup, List.length_map]
    intro jti
    simp only [List.mem_map, Db.activeSessions, List.mem_filter, Bool.and_eq_true,
      decide_eq_true_eq]
    constructor
    · rintro ⟨⟨⟨user, hub⟩, session?⟩, hjoined, hid⟩
      obtain ⟨session, rfl, rfl⟩ := Option.map_eq_some_iff.mp hid
      obtain ⟨hjoined, rfl⟩ := (hmem _).mp hjoined
      obtain ⟨-, hsession, hon⟩ := mem_leftJoin_some.mp hjoined
      rw [Bool.and_eq_true, decide_eq_true_eq] at hon
      exact ⟨session, ⟨hsession, hon⟩, rfl⟩
    · rintro ⟨session, ⟨hsession, hon⟩, rfl⟩
      obtain ⟨hub, hpair⟩ := exists_mem_leftJoin.mpr hrow
      refine ⟨((row, hub), some session), (hmem _).mpr ⟨?_, rfl⟩, rfl⟩
      apply mem_leftJoin_some.mpr
      simpa using ⟨hpair, hsession, hon⟩
  obtain ⟨⟨user, hub⟩, session⟩ := first
  subst huser
  exact ⟨_, by rw [userEntry, hfirst]; rfl, rfl, ⟨user, hrow, rfl, rfl, rfl⟩, hhubs, hsessions⟩

/-- The groups of a page, by their keys. -/
theorem userEntries_eq (db : Db) (now : Int) (cursor : Option String) (limit : ℕ) :
    db.userEntries now cursor limit =
      ((rowsBeyond db.userKeys (fun a b => decide (a < b)) cursor).take limit).filterMap fun key =>
        userEntry ((db.joinedBeyond now cursor).filter fun joined => joined.key = key) := by
  rw [← groupKeys_eq db now cursor, Db.userEntries, groups, ← List.map_take, List.filterMap_map]
  rfl

/-- A key on a page is that of a user. -/
theorem entryRight_of_key
    (hkey : key ∈ rowsBeyond s.db.userKeys (fun a b => decide (a < b)) cursor) :
    ∃ entry, userEntry ((s.db.joinedBeyond s.clock cursor).filter fun joined =>
        joined.key = key) = some entry ∧ entry.publicKey = key ∧ EntryRight s entry := by
  obtain ⟨⟨⟨row, hub⟩, session⟩, hrow, rfl⟩ :=
    (mem_joinedBeyond_key s.clock).mpr hkey
  obtain ⟨hjoined, hbeyond⟩ := List.mem_filter.mp hrow
  exact entryRight_of_group (exists_mem_joinedUsers.mp ⟨hub, session, hjoined⟩) hbeyond

theorem keys_userEntries (s : FarmState) (cursor : Option String) (limit : ℕ) :
    (s.db.userEntries s.clock cursor limit).map (·.publicKey) =
      (rowsBeyond s.db.userKeys (fun a b => decide (a < b)) cursor).take limit := by
  rw [userEntries_eq, List.map_filterMap]
  refine (List.filterMap_congr fun key hkey => ?_).trans List.filterMap_some
  obtain ⟨entry, hentry, hsame, -⟩ := entryRight_of_key (List.mem_of_mem_take hkey)
  rw [hentry, Option.map_some, hsame]

theorem entryRight_of_mem {entry : UserEntry}
    (h : entry ∈ s.db.userEntries s.clock cursor limit) : EntryRight s entry := by
  rw [userEntries_eq, List.mem_filterMap] at h
  obtain ⟨key, hkey, hentry⟩ := h
  obtain ⟨found, hfound, -, hright⟩ := entryRight_of_key (List.mem_of_mem_take hkey)
  obtain rfl : found = entry := Option.some.inj (hfound.symm.trans hentry)
  exact hright

end Entries

/-! ## Requests -/

section Requests

variable {farm : FarmConfig} {bearer : Bearer} {s : FarmState}

/-- The admin is answered, and nobody else. -/
theorem run_listUsers (query : ListUsersQuery) :
    ((listUsers farm bearer query).run s).1 = ((requireAdmin farm bearer).run s).1.map fun _ =>
      ⟨s.db.userEntries s.clock query.cursor (pageSize query.limit),
        s.db.farmUsers.rows.length⟩ := by
  have hreads : ((requireAdmin farm bearer).run s).2 = s := requireAdmin_queries.reads s
  rw [listUsers, Prog.run_bind']
  rcases hrun : (requireAdmin farm bearer).run s with ⟨e | admin, t⟩
  · rfl
  · rw [hrun] at hreads
    cases hreads
    rfl

/-- What one page is, in terms of the keys. -/
theorem listsPage_iff {limit : Option Int64} {cursor following : Option String}
    {entries : List UserEntry} :
    ListsPage farm bearer limit s cursor entries following ↔
      (∃ admin, ((requireAdmin farm bearer).run s).1 = .ok admin) ∧
        entries = s.db.userEntries s.clock cursor (pageSize limit) ∧
        following = (entries.map (·.publicKey)).getLast? := by
  rw [ListsPage, List.getLast?_map]
  cases hadmin : ((requireAdmin farm bearer).run s).1 with
  | error e => simp [run_listUsers, hadmin, Except.map]
  | ok admin =>
      simp only [run_listUsers, hadmin, Except.map, Except.ok.injEq, ListUsersResponse.mk.injEq]
      constructor
      · rintro ⟨⟨total, rfl, -⟩, hfollowing⟩
        exact ⟨⟨admin, rfl⟩, rfl, hfollowing⟩
      · rintro ⟨-, rfl, hfollowing⟩
        exact ⟨⟨_, rfl, rfl⟩, hfollowing⟩

/-- The keys of a page make up a page of the keys. -/
theorem turns_of_listsPage {limit : Option Int64} {cursor following : Option String}
    {entries : List UserEntry} (h : ListsPage farm bearer limit s cursor entries following) :
    Turns s.db.userKeys (fun a b => decide (a < b)) (pageSize limit) (fun _ => true) cursor
      (entries.map (·.publicKey)) following := by
  obtain ⟨-, rfl, hfollowing⟩ := listsPage_iff.mp h
  exact ⟨keys_userEntries s cursor _, hfollowing⟩

theorem pageSize_pos (limit : Option Int64) : 0 < pageSize limit := by
  unfold pageSize
  omega

/-- The keys are read page by page. -/
theorem exists_walk_userKeys (db : Db) (limit : Option Int64) :
    ∃ pages, Walk (Turns db.userKeys (fun a b => decide (a < b)) (pageSize limit) fun _ => true)
      none pages ∧ pages.flatten = db.userKeys := by
  have hsorted : db.userKeys.Pairwise fun a b => decide (a < b) = true := by
    simpa using pairwise_userKeys db
  have hnodup : db.userKeys.Nodup := (pairwise_userKeys db).imp fun h => ne_of_lt h
  apply (walk_iff hnodup (pageSize_pos limit) (fun _ _ => rfl) ?_).mpr
  · intro i _ _
    apply endsAt_of_pairwise hsorted
    intro a b hab
    rw [decide_eq_true_eq] at hab
    exact decide_eq_false (not_lt_of_gt hab)
  · intro a b c hab hbc
    rw [decide_eq_true_eq] at hab hbc ⊢
    exact hab.trans hbc

theorem keys_of_walk {limit : Option Int64} {pages : List (List UserEntry)}
    (h : Walk (ListsPage farm bearer limit s) none pages) :
    pages.flatten.map (·.publicKey) = s.db.userKeys := by
  obtain ⟨keys, hkeys, hflatten⟩ := exists_walk_userKeys s.db limit
  have hwalk := h.map fun _ _ _ hpage => turns_of_listsPage hpage
  have hsame := hwalk.unique (fun _ _ _ _ _ hpage hpage' =>
    ⟨hpage.1.trans hpage'.1.symm, hpage.2.trans (by rw [hpage.1, ← hpage'.1, ← hpage'.2])⟩) hkeys
  rw [List.map_flatten, hsame, hflatten]

/-- A revocation that is granted: its count, and what it leaves. -/
theorem revokeUserSessions_ok {user : String} {n : ℕ}
    (h : ((revokeUserSessions farm bearer user).run s).1 = .ok n) :
    n = (s.db.activeSessions user s.clock).length ∧
      ((revokeUserSessions farm bearer user).run s).2 =
        written (revokeSessions user s.clock) s := by
  have hreads : ((requireAdmin farm bearer).run s).2 = s := requireAdmin_queries.reads s
  rw [revokeUserSessions, Prog.run_bind'] at h ⊢
  rcases hrun : (requireAdmin farm bearer).run s with ⟨e | admin, t⟩
  · rw [hrun] at h
    cases h
  · rw [hrun] at h hreads
    dsimp only at h hreads ⊢
    subst hreads
    rw [fetch, Prog.run_bind_of_ok (Prog.run_query _ t)] at h ⊢
    by_cases huser : t.db.farmUsers.has user = true
    · rw [Prog.run_bind_of_ok (Prog.run_ensure_of_pos huser _ t)] at h ⊢
      have hclock : unixNow.run t = (.ok t.clock, t) := rfl
      rw [Prog.run_bind_of_ok hclock] at h ⊢
      cases h
      exact ⟨rfl, rfl⟩
    · rw [Prog.run_bind_of_error (Prog.run_ensure_of_neg huser _ t)] at h
      cases h

end Requests

/-! ## Runs -/

section Runs

variable {farm : FarmConfig} {s t : FarmState} {history : List SessionEvent} {user : String}

/-- One event that stores no session of the user. -/
theorem NoneLive.step {e : SessionEvent} {past : List (Sent FarmState)} {now : Int}
    (hgood : SessionSent farm e.request past e.toSent)
    (hnew : ∀ row ∈ newSession? e, row.publicKey ≠ user) (h : NoneLive user now e.before) :
    NoneLive user now e.after := by
  have hinsert : ∀ row, e.statement = executed (insertSession row) → NoneLive user now e.after := by
    intro row hstatement
    have hafter : e.after = executed (insertSession row) e.before := by rw [Sent.after, hstatement]
    rcases insertSession_cases row e.before with hsame | ⟨hfree, hrows⟩
    · intro found hfound
      rw [hafter, hsame] at hfound
      exact h found hfound
    · rw [← hafter] at hrows
      intro found hfound huser
      rw [hrows, List.mem_append, List.mem_singleton] at hfound
      rcases hfound with hfound | rfl
      · exact h found hfound huser
      · exact absurd huser (hnew found (newSession?_of_rows hfree hrows))
  rcases hgood with ⟨-, hsame, -⟩ | ⟨-, -, row, -, hstatement⟩ | ⟨-, row, -, -, -, hstatement⟩ |
    ⟨other, clock, -, -, hstatement⟩
  · intro row hrow
    rw [hsame] at hrow
    exact h row hrow
  · exact hinsert row hstatement
  · exact hinsert row hstatement
  · rw [Sent.after, hstatement]
    exact h.revoke

/-- Everything after the revocation. -/
theorem noneLive_run (h : Interleaving (SessionSent farm) s history t)
    {pre later : List SessionEvent} {revocation : SessionEvent}
    (hsplit : history = pre ++ revocation :: later)
    (hrevokes : revokes? farm revocation.request (sentBy revocation.job pre) = some user)
    (hnew : ∀ e ∈ later, ∀ row ∈ newSession? e, row.publicKey ≠ user) :
    ∃ now ≤ t.clock, NoneLive user now t := by
  induction h generalizing later with
  | idle => simp at hsplit
  | @exec history t last hrun hbefore hown hgood ih =>
      subst hbefore
      rcases snoc_split hsplit with ⟨rfl, rfl, rfl⟩ | ⟨between, rfl, rfl⟩
      · obtain ⟨clock, hclock, hstatement⟩ := hgood.of_revokes hrevokes
        refine ⟨clock.before.clock, (clock_le_of_sentBy hrun hclock).trans hgood.clock_le, ?_⟩
        rw [Sent.after, hstatement]
        exact noneLive_revoked _ _ _
      · obtain ⟨now, hnow, hnone⟩ := ih rfl fun e he => hnew e (List.mem_append_left _ he)
        refine ⟨now, hnow.trans hgood.clock_le, hnone.step hgood ?_⟩
        exact hnew last (List.mem_append_right _ List.mem_cons_self)

end Runs

/-- **Accounting.** The list, the revocation and the check agree in every state, and what
has been revoked stays so until the user is logged in again. -/
theorem farm_accounts (farm : FarmConfig) (s : FarmState) :
    AccountsRight farm s ∧ ∀ moves, RevokedUntilLogin farm moves s := by
  refine ⟨⟨?_, ?_, fun bearer limit pages => keys_of_walk, ?_⟩, ?_⟩
  · intro bearer query response h entry hentry
    rw [run_listUsers] at h
    cases hadmin : ((requireAdmin farm bearer).run s).1 with
    | error e =>
        rw [hadmin] at h
        cases h
    | ok admin =>
        rw [hadmin] at h
        cases h
        exact entryRight_of_mem hentry
  · intro bearer admin hadmin limit
    obtain ⟨keys, hkeys, -⟩ := exists_walk_userKeys s.db limit
    refine hkeys.exists_of fun cursor rows following hpage => ?_
    refine ⟨_, listsPage_iff.mpr ⟨⟨admin, hadmin⟩, rfl, ?_⟩⟩
    rw [keys_userEntries, hpage.2, hpage.1]
    rfl
  · intro bearer user n h
    obtain ⟨hcount, hafter⟩ := revokeUserSessions_ok h
    rw [hafter]
    refine ⟨hcount.trans (liveSessions_eq s user).symm, ?_⟩
    exact (noneLive_revoked user s.clock s).liveSessions le_rfl
  · intro moves pre revocation later hsplit user hrevokes hnew
    have hsound := Server.sound_serve (SessionRequest.handler_follows farm) moves s
    obtain ⟨now, hnow, hnone⟩ := noneLive_run hsound.run hsplit hrevokes hnew
    exact hnone.liveSessions hnow

end Voxply.Farm
