/-
# Reading the audit log in pages

An admin reads the audit log by the numbers of its events, from the oldest one on.  One row more
than the page holds is selected, only to see whether there is a further page; the cursor is the
number of the last row that is answered.

A bound that is not given is the least or the greatest time there is, where times begin at zero,
and an event type that is the empty text is none.
-/

import Voxply.Hub.ForumPaging
import Voxply.Hub.AuditLog

namespace Voxply.Hub

open Voxply.Math

/-! ## The handler -/

structure AuditLogQuery where
  eventType : Option String := none
  since : Option Int := none
  «until» : Option Int := none
  cursor : Option Int := none
  limit : Option Int64 := none

structure AuditLogEntry where
  seq : Int
  eventType : String
  atTime : Int
  actorPubkey : Option String
  targetPubkey : Option String
  channelId : Option String
  payload : Payload
  deriving DecidableEq

structure AuditLogResponse where
  entries : List AuditLogEntry
  nextCursor : Option Int
  deriving DecidableEq

def HubAuditLogRow.entry (row : HubAuditLogRow) : AuditLogEntry :=
  ⟨row.seq, row.eventType, row.atTime, row.actorPubkey, row.targetPubkey, row.channelId,
    row.payloadJson⟩

/-- `limit.unwrap_or(50).min(200).max(1)`. -/
def auditLimit (limit : Option Int64) : Int :=
  max (min ((limit.map Int64.toInt).getD 50) 200) 1

/-- `ORDER BY seq ASC`. -/
def inSeqOrder (rows : List HubAuditLogRow) : List HubAuditLogRow :=
  rows.insertionSort fun a b => a.seq ≤ b.seq

/-- `at >= ? AND at <= ?`, and `AND event_type = ?` in the second statement. -/
def AuditLogQuery.selects (query : AuditLogQuery) (row : HubAuditLogRow) : Bool :=
  let eventType := query.eventType.getD ""
  let inRange := query.since.getD 0 ≤ row.atTime ∧ row.atTime ≤ query.until.getD (2 ^ 63 - 1)
  if eventType = "" then inRange else inRange ∧ row.eventType = eventType

/-- The statement for the filters that are given. -/
def Db.auditPage (db : Db) (query : AuditLogQuery) (fetchLimit : Int) : List HubAuditLogRow :=
  limitRows fetchLimit (inSeqOrder (db.hubAuditLog.rows.filter fun row =>
    query.cursor.getD 0 < row.seq ∧ query.selects row))

/-- `admin_audit_log`. -/
def adminAuditLog (user : String) (query : AuditLogQuery) : Handler AuditLogResponse := do
  let perms ← userPermissions user
  .ofExcept (perms.require admin)
  let limit := auditLimit query.limit
  let rows ← fetch (·.auditPage query (limit + 1))
  let (page, last) := turnPage limit rows
  pure ⟨page.map (·.entry), last.map (·.seq)⟩

/-! ## What is to hold -/

/-- What the handler answers to the query with a cursor. -/
def AuditAnswer (s : AppState) (user : String) (query : AuditLogQuery) (cursor : Option Int)
    (entries : List AuditLogEntry) (following : Option Int) : Prop :=
  ((adminAuditLog user { query with cursor := cursor }).run s).1 = .ok ⟨entries, following⟩

/-- A row is what the filters ask for. -/
structure AuditLogQuery.Asks (query : AuditLogQuery) (row : HubAuditLogRow) : Prop where
  since : ∀ since ∈ query.since, since ≤ row.atTime
  «until» : ∀ last ∈ query.until, row.atTime ≤ last
  eventType : ∀ eventType ∈ query.eventType, row.eventType = eventType

/-- The pages that are read until there is no cursor: they have each row that is asked for once,
in order, and only a log without any such row has a page without rows. -/
structure AuditRead (s : AppState) (user : String) (query filters : AuditLogQuery)
    (pages : List (List AuditLogEntry)) : Prop where
  walk : Walk (AuditAnswer s user query) none pages
  sorted : pages.flatten.Pairwise fun a b => a.seq < b.seq
  mem_iff : ∀ entry, entry ∈ pages.flatten ↔
    ∃ row ∈ s.db.hubAuditLog.rows, filters.Asks row ∧ row.entry = entry
  lengths : (∀ page ∈ pages, 1 ≤ page.length ∧ page.length ≤ 200) ∨ pages = [[]]

/-- The filters as they are read. -/
def AuditLogQuery.asRead (query : AuditLogQuery) : AuditLogQuery :=
  { query with
    eventType := query.eventType.filter (· ≠ "")
    since := some (query.since.getD 0)
    «until» := some (query.until.getD (2 ^ 63 - 1)) }

/-! ## The listing -/

section Listing

variable {s : AppState} {user : String} {query : AuditLogQuery}

theorem selects_iff {row : HubAuditLogRow} :
    query.selects row = true ↔ query.asRead.Asks row := by
  have hasks : query.asRead.Asks row ↔
      (query.since.getD 0 ≤ row.atTime ∧ row.atTime ≤ query.until.getD (2 ^ 63 - 1)) ∧
        ∀ eventType ∈ query.eventType.filter (· ≠ ""), row.eventType = eventType :=
    ⟨fun h => ⟨⟨h.since _ rfl, h.until _ rfl⟩, h.eventType⟩, fun ⟨⟨hsince, huntil⟩, htype⟩ =>
      ⟨fun _ h => Option.mem_some.mp h ▸ hsince, fun _ h => Option.mem_some.mp h ▸ huntil, htype⟩⟩
  rw [hasks, AuditLogQuery.selects]
  cases query.eventType with
  | none => simp
  | some eventType =>
      by_cases hempty : eventType = ""
      · simp [hempty]
      · simp [hempty]

/-- What is beyond a row of the log. -/
def HubAuditLogRow.beyond (a row : HubAuditLogRow) : Bool := a.seq < row.seq

/-- The rows that the filters select, in their order. -/
def Db.auditListing (db : Db) (query : AuditLogQuery) : List HubAuditLogRow :=
  inSeqOrder (db.hubAuditLog.rows.filter query.selects)

theorem mem_auditListing {db : Db} {row : HubAuditLogRow} :
    row ∈ db.auditListing query ↔ row ∈ db.hubAuditLog.rows ∧ query.asRead.Asks row := by
  rw [Db.auditListing, inSeqOrder, List.mem_insertionSort, List.mem_filter, selects_iff]

/-- The rows of the log beyond a row, in the order of the listing. -/
theorem auditPage_eq {db : Db} (hpos : ∀ row ∈ db.hubAuditLog.rows, 0 < row.seq)
    (cursor : Option HubAuditLogRow) (limit : Int) :
    db.auditPage { query with cursor := cursor.map (·.seq) } limit =
      limitRows limit (rowsBeyond (db.auditListing query) HubAuditLogRow.beyond cursor) := by
  have : Std.Total fun a b : HubAuditLogRow => a.seq ≤ b.seq := ⟨fun a b => le_total a.seq b.seq⟩
  have : IsTrans HubAuditLogRow fun a b => a.seq ≤ b.seq := ⟨fun _ _ _ hab hbc => hab.trans hbc⟩
  have hselects : AuditLogQuery.selects { query with cursor := cursor.map (·.seq) } =
      query.selects := rfl
  rw [Db.auditPage, hselects]
  congr 1
  cases cursor with
  | none =>
      rw [rowsBeyond, Db.auditListing]
      congr 1
      apply List.filter_congr
      intro row hrow
      simp [hpos row hrow]
  | some a =>
      rw [rowsBeyond, Db.auditListing, inSeqOrder, inSeqOrder, ← insertionSort_filter,
        List.filter_filter]
      simp [HubAuditLogRow.beyond]

end Listing

/-! ## The walk -/

section Walks

variable {s : AppState} {user : String} {query : AuditLogQuery}
  (hadmin : (s.db.userPermissions user).require admin = .ok ())
  (hpos : ∀ row ∈ s.db.hubAuditLog.rows, 0 < row.seq)

include hadmin hpos

/-- Pages that are read from a row on. -/
theorem auditAnswer_iff {cursor : Option HubAuditLogRow} {entries : List AuditLogEntry}
    {following : Option Int} :
    AuditAnswer s user query (cursor.map (·.seq)) entries following ↔
      ∃ rows next,
        Pages (s.db.auditListing query) HubAuditLogRow.beyond (auditLimit query.limit) cursor rows
          next ∧
        entries = rows.map (·.entry) ∧ following = next.map (·.seq) := by
  have hrun : ((adminAuditLog user { query with cursor := cursor.map (·.seq) }).run s).1 =
      .ok ⟨(turnPage (auditLimit query.limit) (s.db.auditPage
          { query with cursor := cursor.map (·.seq) } (auditLimit query.limit + 1))).1.map
          (·.entry),
        (turnPage (auditLimit query.limit) (s.db.auditPage
          { query with cursor := cursor.map (·.seq) } (auditLimit query.limit + 1))).2.map
            (·.seq)⟩ := by
    rw [adminAuditLog, Prog.run_bind_of_ok (run_userPermissions user s), hadmin,
      Prog.run_bind_of_ok (Prog.run_ofExcept _ s), Prog.run_bind_of_ok (run_fetch _ s)]
    rfl
  rw [AuditAnswer, hrun, auditPage_eq hpos, Except.ok.injEq, AuditLogResponse.mk.injEq]
  constructor
  · intro ⟨hentries, hfollowing⟩
    exact ⟨_, _, rfl, hentries.symm, hfollowing.symm⟩
  · rintro ⟨rows, next, hpage, rfl, rfl⟩
    rw [hpage]
    exact ⟨rfl, rfl⟩

/-- Pages of rows are pages of entries. -/
theorem walk_entries {pages : List (List HubAuditLogRow)}
    (h : Walk (Pages (s.db.auditListing query) HubAuditLogRow.beyond (auditLimit query.limit)) none
      pages) :
    Walk (AuditAnswer s user query) none (pages.map fun page => page.map (·.entry)) := by
  have hanswer (cursor : Option HubAuditLogRow) (rows : List HubAuditLogRow)
      (following : Option HubAuditLogRow)
      (hpage : Pages (s.db.auditListing query) HubAuditLogRow.beyond (auditLimit query.limit) cursor
        rows following) :
      AuditAnswer s user query (cursor.map (·.seq)) (rows.map (·.entry))
        (following.map (·.seq)) :=
    (auditAnswer_iff hadmin hpos).mpr ⟨rows, following, hpage, rfl, rfl⟩
  exact h.render hanswer

end Walks

section Listing

variable {db : Db} (hnodup : (db.hubAuditLog.rows.map (·.seq)).Nodup)

include hnodup

theorem pairwise_auditListing (query : AuditLogQuery) :
    (db.auditListing query).Pairwise fun a b => a.seq < b.seq := by
  have : Std.Total fun a b : HubAuditLogRow => a.seq ≤ b.seq := ⟨fun a b => le_total a.seq b.seq⟩
  have : IsTrans HubAuditLogRow fun a b => a.seq ≤ b.seq := ⟨fun _ _ _ hab hbc => hab.trans hbc⟩
  have hsorted : (db.auditListing query).Pairwise fun a b => a.seq ≤ b.seq :=
    List.pairwise_insertionSort _ _
  have hdistinct : ((db.auditListing query).map (·.seq)).Nodup :=
    ((List.perm_insertionSort _ _).map _).nodup_iff.mpr
      (hnodup.sublist (List.filter_sublist.map _))
  exact (hsorted.and (List.pairwise_map.mp hdistinct)).imp fun h => lt_of_le_of_ne h.1 h.2

theorem endsAt_auditListing (query : AuditLogQuery) (k : ℕ) :
    EndsAt (db.auditListing query) HubAuditLogRow.beyond k := by
  apply endsAt_of_pairwise
  · exact (pairwise_auditListing hnodup query).imp decide_eq_true
  · intro a b hab
    have hlt : a.seq < b.seq := of_decide_eq_true hab
    exact decide_eq_false hlt.asymm

end Listing

theorem auditLimit_bounds (limit : Option Int64) : 1 ≤ auditLimit limit ∧
    auditLimit limit ≤ 200 := by
  rw [auditLimit]
  omega

/-- Only a listing without rows has a page without rows. -/
theorem lengths_of_walk {listed : List HubAuditLogRow}
    {beyond : HubAuditLogRow → HubAuditLogRow → Bool} {limit : Int}
    {pages : List (List HubAuditLogRow)} (hnodup : listed.Nodup) (hlow : 1 ≤ limit)
    (hhigh : limit ≤ 200) (hends : ∀ k, EndsAt listed beyond k)
    (hwalk : Walk (Pages listed beyond limit) none pages) :
    (∀ page ∈ pages.map fun page => page.map (·.entry), 1 ≤ page.length ∧ page.length ≤ 200) ∨
      (pages.map fun page => page.map (·.entry)) = [[]] := by
  have hlength : pageLength limit listed.length = limit.toNat := if_neg (by omega)
  rw [pages_iff_turns (by omega), hlength] at hwalk
  by_cases hempty : listed = []
  · right
    subst hempty
    cases hwalk with
    | last hpage => rw [hpage.1, rowsBeyond, List.take_nil, List.map_singleton, List.map_nil]
    | next hpage _ => exact absurd hpage.mem List.not_mem_nil
  · left
    have hsome := Walk.ne_nil hnodup (by omega)
      (fun m hm => by
        have hlt : limit < m := of_decide_eq_true hm
        omega)
      hends hwalk rfl (List.length_pos_iff.mpr hempty)
    have hfits : ∀ rows ∈ pages, rows.length ≤ limit.toNat :=
      Walk.all (fun _ _ _ hpage => hpage.length_le) hwalk
    intro page hpage
    obtain ⟨rows, hmem, rfl⟩ := List.mem_map.mp hpage
    have hpos := List.length_pos_iff.mpr (hsome rows hmem)
    have hle := hfits rows hmem
    rw [List.length_map]
    omega

/-- The audit log is read as its filters are read. -/
theorem auditRead {s : AppState} {user : String}
    (hadmin : (s.db.userPermissions user).require admin = .ok ())
    (hpos : ∀ row ∈ s.db.hubAuditLog.rows, 0 < row.seq)
    (hnodup : (s.db.hubAuditLog.rows.map (·.seq)).Nodup) (query : AuditLogQuery) :
    ∃ pages, AuditRead s user query query.asRead pages := by
  obtain ⟨hlow, hhigh⟩ := auditLimit_bounds query.limit
  have hlimit : auditLimit query.limit ≠ 0 ∧ auditLimit query.limit ≠ -1 := by omega
  have hsorted := pairwise_auditListing hnodup query
  have hends := endsAt_auditListing hnodup query
  have hrows : (s.db.auditListing query).Nodup :=
    hsorted.imp fun hlt heq => (heq ▸ hlt).ne rfl
  have htrans : ∀ a b c : HubAuditLogRow, a.beyond b = true → b.beyond c = true →
      a.beyond c = true := fun a b c hab hbc =>
    decide_eq_true ((of_decide_eq_true hab).trans (of_decide_eq_true hbc))
  obtain ⟨pages, hwalk, hflatten⟩ := (pages_walk_iff hlimit hrows htrans).mpr fun k _ => hends k
  have hentries := walk_entries hadmin hpos hwalk
  have hflat : (pages.map fun page => page.map (·.entry)).flatten =
      (s.db.auditListing query).map (·.entry) := by
    rw [← List.map_flatten, hflatten]
  refine ⟨_, hentries, ?_, ?_, ?_⟩
  · rw [hflat, List.pairwise_map]
    exact hsorted
  · intro entry
    rw [hflat, List.mem_map]
    simp only [mem_auditListing, and_assoc]
  · exact lengths_of_walk hrows hlow hhigh hends hwalk

/-! ## Small logs -/

def loggedAt (now : Int) : HubAuditLogRow :=
  ⟨"event", 1, "channel.created", now, none, none, none, .object []⟩

/-- A hub with one event in its log. -/
def loggedHub (now : Int) : AppState :=
  { db :=
      { users := .single { publicKey := "owner", firstSeenAt := 1, lastSeenAt := 1 }
        roles := .single ⟨"builtin-owner", "Owner", 999999, false, 0⟩
        rolePermissions := .single ⟨"builtin-owner", "admin"⟩
        userRoles := .single ⟨"owner", "builtin-owner", 1⟩
        hubAuditLog := ⟨[loggedAt now], List.nodup_singleton _⟩ } }

/-- A hub with three events in its log, of which the last one stands first. -/
def busyHub : AppState :=
  { db :=
      { (loggedHub 10).db with
        hubAuditLog :=
          ⟨[⟨"third", 3, "channel.created", 12, none, none, none, .object []⟩, loggedAt 10,
            ⟨"second", 2, "channel.deleted", 11, none, none, none, .object []⟩], by decide⟩ } }

/-- Created channels, one event a page. -/
def creationsQuery : AuditLogQuery :=
  { eventType := some "channel.created", limit := some 1 }

theorem auditRead_busyHub :
    AuditAnswer busyHub "owner" creationsQuery none [(loggedAt 10).entry] (some 1) ∧
      ∃ pages, AuditRead busyHub "owner" creationsQuery creationsQuery.asRead pages := by
  constructor
  · unfold AuditAnswer
    decide
  · exact auditRead (by decide) (by decide) (by decide) creationsQuery

theorem pages_eq_of_answer {s : AppState} {user : String} {query : AuditLogQuery}
    {entries : List AuditLogEntry} {pages : List (List AuditLogEntry)}
    (hanswer : AuditAnswer s user query none entries none)
    (hwalk : Walk (AuditAnswer s user query) none pages) : pages = [entries] := by
  cases hwalk with
  | last hrows =>
      cases hrows.symm.trans hanswer
      rfl
  | next hrows _ => cases hrows.symm.trans hanswer

/-- Asked for events of the type that is the empty text, the log answers one of another type; and
asked for all events, it leaves one out that comes before the beginning of time. -/
theorem unset_not_auditRead :
    (¬ ∃ pages, AuditRead (loggedHub 10) "owner" { eventType := some "" }
      { eventType := some "" } pages) ∧
    ¬ ∃ pages, AuditRead (loggedHub (-1)) "owner" {} {} pages := by
  constructor
  · intro ⟨pages, h⟩
    have hanswer : AuditAnswer (loggedHub 10) "owner" { eventType := some "" } none
        [(loggedAt 10).entry] none := by
      unfold AuditAnswer
      decide
    rw [pages_eq_of_answer hanswer h.walk] at h
    obtain ⟨row, hrow, hasks, -⟩ := (h.mem_iff (loggedAt 10).entry).mp (by simp)
    rw [List.mem_singleton.mp hrow] at hasks
    exact absurd (hasks.eventType "" rfl) (by decide)
  · intro ⟨pages, h⟩
    have hanswer : AuditAnswer (loggedHub (-1)) "owner" {} none [] none := by
      unfold AuditAnswer
      decide
    rw [pages_eq_of_answer hanswer h.walk] at h
    have hasks : AuditLogQuery.Asks {} (loggedAt (-1)) := by
      constructor <;> intro _ hsome <;> cases hsome
    have hlisted := (h.mem_iff (loggedAt (-1)).entry).mpr
      ⟨loggedAt (-1), List.mem_singleton_self _, hasks, rfl⟩
    cases hlisted

end Voxply.Hub
