/-
# The numbers of events

Events are published by tasks that run side by side.  Each takes its number from
a counter in two statements, one that counts up and one that reads; a second
task that counts up in between makes both read the same number, and one number
belongs to nobody.

Counting up itself is sound in every schedule: the tasks that have counted up
correspond to the numbers in the order in which they did.  The numbers in the
log are those exactly as long as each task reads before the next one counts up.
-/

import Voxply.Hub.AuditLog

namespace Voxply.Hub

open Voxply.Math

variable {readCaps : String → Option (List String)} {s t : AppState}

/-! ## Schedules -/

structure PublishRequest where
  env : PublishEnv
  event : HubEvent
  deriving DecidableEq

def PublishRequest.handler (readCaps : String → Option (List String)) (request : PublishRequest) :
    Handler Unit :=
  publishHubEvent readCaps request.env request.event

abbrev PublishEvent := Event PublishRequest AppState

/-- Follow a schedule of events that are published. -/
def publishRun (readCaps : String → Option (List String)) (moves : List (Move PublishRequest))
    (s : AppState) : Server PublishRequest AppState ApiError Unit :=
  serve (PublishRequest.handler readCaps) moves s

/-- The number of a task: what it has read or, until it reads, what it has
counted up to. -/
def sequenceOf (job : ℕ) (history : List PublishEvent) : Option Int :=
  match sentBy job history with
  | [] => none
  | [bump] => bump.after.db.auditSeq
  | _ :: read :: _ => read.before.db.auditSeq

/-- What is promised of the numbers, from a counter that stood at `start`. -/
structure AuditSequence (start : Int) (server : Server PublishRequest AppState ApiError Unit) :
    Prop where
  /-- No two rows of the log share a number. -/
  distinct : (server.state.db.hubAuditLog.rows.map (·.seq)).Nodup
  /-- Every number that was counted up to belongs to one task. -/
  belongs : ∀ n current, server.state.db.auditSeq = some current → start < n → n ≤ current →
    ∃! job, sequenceOf job server.history = some n
  /-- A task that starts after the row of another one was stored has the larger
  number. -/
  ordered : ∀ pre e post first second, server.history = pre ++ e :: post →
    (∃ row, e.statement = executed (insertAudit row)) →
    sequenceOf e.job server.history = some first →
    ∀ job, sentBy job (pre ++ [e]) = [] → sequenceOf job server.history = some second →
    first < second

/-- No task counts up while another one has counted up and not yet read. -/
def ReadsBeforeNextBump (history : List PublishEvent) : Prop :=
  ∀ pre e post, history = pre ++ e :: post → sentBy e.job pre = [] →
    ∀ other ∈ pre, (sentBy other.job pre).length ≠ 1

/-! ## Statements -/

/-- What `publish_hub_event` sends. -/
inductive PublishSent (request : PublishRequest) (past : List (Sent AppState))
    (sent : Sent AppState) : Prop
  | bump (hpast : past = []) (h : sent.statement = written bumpSeq)
  | read (bump : Sent AppState) (hpast : past = [bump]) (h : sent.statement = id)
  | store (bump read : Sent AppState) (seq : Int) (hpast : past = [bump, read])
      (hseq : read.before.db.auditSeq = some seq)
      (h : sent.statement = executed (insertAudit (request.event.row request.env seq)))
  | aside (hpast : 3 ≤ past.length) (hseq : sent.after.db.hubAuditSeq = sent.before.db.hubAuditSeq)
      (hlog : sent.after.db.hubAuditLog = sent.before.db.hubAuditLog)

theorem trySend_db (s : AppState) (conn : ℕ) (frame : HubEventFrame) :
    (s.trySend conn frame).db = s.db := by
  unfold AppState.trySend
  split_ifs <;> rfl

section Statements

variable {request : PublishRequest} {past : List (Sent AppState)}

theorem pushEvents_follows {env : PublishEnv} {event : HubEvent} {seq : Int}
    (hpast : 3 ≤ past.length) :
    (pushEvents readCaps env event seq).Follows (PublishSent request) (fun _ _ => True) past := by
  have hread : ∀ past' : List (Sent AppState), past <+: past' → ∀ s : AppState,
      PublishSent request past' ⟨id, s⟩ :=
    fun past' hprefix s => .aside (hpast.trans hprefix.length_le) rfl rfl
  apply follows_fetch_bind (hread _ (List.prefix_refl past))
  intro s
  apply follows_fetch_bind (hread _ (List.prefix_append ..))
  intro s'
  apply Prog.follows_when
  · intro _
    apply Prog.follows_query_bind (hread _ ((List.prefix_append ..).trans (List.prefix_append ..)))
    intro s''
    apply Prog.follows_each
    intro bot _ past' hprefix
    have hpast' : past <+: past' :=
      ((List.prefix_append ..).trans ((List.prefix_append ..).trans (List.prefix_append ..))).trans
        hprefix
    unfold pushEvent
    cases s''.botSessions bot with
    | none => exact Prog.follows_ret trivial
    | some conn =>
        apply follows_fetch_bind (hread _ hpast')
        intro u
        apply Prog.follows_when
        · intro _
          apply follows_fetch_bind (hread _ (hpast'.trans (List.prefix_append ..)))
          intro v w
          refine ⟨.aside ?_ ?_ ?_, trivial⟩
          · exact hpast.trans
              (hpast'.trans ((List.prefix_append ..).trans (List.prefix_append ..))).length_le
          · rw [Sent.after_mk, trySend_db]
          · rw [Sent.after_mk, trySend_db]
        · exact fun _ => trivial
  · exact fun _ => trivial

theorem nextSeq_follows :
    nextSeq.Follows (PublishSent request)
      (fun seq past' => ∃ bump read, past' = [bump, read] ∧ read.before.db.auditSeq = seq) [] := by
  apply follows_write_bind fun s => .bump rfl rfl
  intro s
  apply Prog.follows_query
  · exact fun t => .read ⟨written bumpSeq, s⟩ rfl rfl
  · exact fun t => ⟨⟨written bumpSeq, s⟩, ⟨id, t⟩, rfl, rfl⟩

theorem storeEvent_follows {bump read : Sent AppState} {seq : Int}
    (hseq : read.before.db.auditSeq = some seq) :
    (storeEvent (request.event.row request.env seq)).Follows (PublishSent request)
      (fun stored past' => stored = true → 3 ≤ past'.length) [bump, read] := by
  apply Prog.Follows.recover
  · apply follows_execute_bind
    · exact fun s => .store bump read seq rfl hseq rfl
    · exact fun s _ _ => Prog.follows_ret fun _ => le_refl 3
  · exact fun e past' _ => Prog.follows_ret fun h => by cases h

/-- Count up, read, store, push. -/
theorem PublishRequest.handler_follows (request : PublishRequest) :
    (request.handler readCaps).Follows (PublishSent request) (fun _ _ => True) [] := by
  apply nextSeq_follows.bind
  rintro seq _ - ⟨bump, read, rfl, hseq⟩
  cases seq with
  | none => exact Prog.follows_ret trivial
  | some seq =>
      apply (storeEvent_follows hseq).bind
      intro stored past' _ hstored
      apply Prog.follows_when
      · exact fun h => pushEvents_follows (hstored h)
      · exact fun _ => trivial

end Statements

theorem publishRun_sound (readCaps : String → Option (List String))
    (moves : List (Move PublishRequest)) (s : AppState) :
    (publishRun readCaps moves s).Sound (PublishRequest.handler readCaps) PublishSent
      (fun _ _ _ => True) s :=
  Server.sound_serve PublishRequest.handler_follows moves s

/-! ## Counting up -/

theorem auditSeq_bumpSeq (db : Db) : (bumpSeq db).auditSeq = db.auditSeq.map (· + 1) := by
  unfold Db.auditSeq bumpSeq
  dsimp only
  rw [Table.find?_update]
  cases hfind : db.hubAuditSeq.find? 1 with
  | none => rfl
  | some row =>
      have hid : row.id = 1 := (Table.find?_eq_some_iff.mp hfind).2
      simp [hid]

theorem auditSeq_insertAudit {row : HubAuditLogRow} (s : AppState) :
    (executed (insertAudit row) s).db.hubAuditSeq = s.db.hubAuditSeq := by
  unfold executed insertAudit
  cases s.db.hubAuditLog.insert? row <;> rfl

/-- What a task has counted up to. -/
def bumpOf (job : ℕ) (history : List PublishEvent) : Option Int :=
  (sentBy job history).head?.bind (·.after.db.auditSeq)

section History

variable {history pre post : List PublishEvent} {e : PublishEvent} {start current : Int}

/-- A later statement does not change what a task has counted up to. -/
theorem bumpOf_append {job : ℕ} {n : Int} (h : bumpOf job pre = some n) :
    bumpOf job (pre ++ post) = some n := by
  unfold bumpOf at h ⊢
  rw [sentBy_append, List.head?_append]
  cases hhead : (sentBy job pre).head? with
  | none => simp [hhead] at h
  | some bump => simpa [hhead] using h

/-- Only the first statement of a task counts up. -/
theorem PublishSent.auditSeq {request : PublishRequest} {past : List (Sent AppState)}
    {sent : Sent AppState} (h : PublishSent request past sent) (hpast : past ≠ []) :
    sent.after.db.auditSeq = sent.before.db.auditSeq := by
  cases h with
  | bump hfirst h => exact absurd hfirst hpast
  | read bump hpast h => rw [Sent.after, h]; rfl
  | store bump read seq hpast hseq h =>
      rw [Sent.after, h, Db.auditSeq, auditSeq_insertAudit, Db.auditSeq]
  | aside hpast hseq hlog => rw [Db.auditSeq, hseq, Db.auditSeq]

theorem PublishSent.first {request : PublishRequest} {sent : Sent AppState}
    (h : PublishSent request [] sent) : sent.statement = written bumpSeq := by
  cases h with
  | bump _ h => exact h
  | read bump hpast _ => cases hpast
  | store bump read seq hpast _ _ => cases hpast
  | aside hpast _ _ => simp at hpast

/-- The tasks that have counted up correspond to the numbers. -/
structure Counted (start : Int) (history : List PublishEvent) (s : AppState) (current : Int) :
    Prop where
  auditSeq : s.db.auditSeq = some current
  start_le : start ≤ current
  bounds : ∀ job n, bumpOf job history = some n → start < n ∧ n ≤ current
  surjective : ∀ n, start < n → n ≤ current → ∃ job, bumpOf job history = some n
  injective : ∀ job other n, bumpOf job history = some n → bumpOf other history = some n →
    job = other

theorem bumpOf_snoc_of_ne {job : ℕ} (h : e.job ≠ job) :
    bumpOf job (history ++ [e]) = bumpOf job history := by
  rw [bumpOf, sentBy_snoc_of_ne h, bumpOf]

/-- One statement: a first one takes the next number, any other one changes
nothing. -/
theorem Counted.snoc (h : Counted start history e.before current)
    (hsent : PublishSent e.request (sentBy e.job history) e.toSent) :
    ∃ current', Counted start (history ++ [e]) e.after current' := by
  by_cases hfirst : sentBy e.job history = []
  · rw [hfirst] at hsent
    have hafter : e.after.db.auditSeq = some (current + 1) := by
      rw [Sent.after, hsent.first, written, withDb_db, auditSeq_bumpSeq, h.auditSeq]
      rfl
    have hnew : bumpOf e.job (history ++ [e]) = some (current + 1) := by
      rw [bumpOf, sentBy_snoc_self, hfirst]
      exact hafter
    have hcases : ∀ job n, bumpOf job (history ++ [e]) = some n →
        (job = e.job ∧ n = current + 1) ∨ (job ≠ e.job ∧ bumpOf job history = some n) := by
      intro job n hjob
      by_cases heq : job = e.job
      · subst heq
        rw [hnew] at hjob
        cases hjob
        exact .inl ⟨rfl, rfl⟩
      · rw [bumpOf_snoc_of_ne (Ne.symm heq)] at hjob
        exact .inr ⟨heq, hjob⟩
    have hle := h.start_le
    refine ⟨current + 1, hafter, by omega, fun job n hjob => ?_, fun n hstart hn => ?_, ?_⟩
    · rcases hcases job n hjob with ⟨-, rfl⟩ | ⟨-, hold⟩
      · omega
      · have hbounds := h.bounds job n hold
        omega
    · by_cases hlast : n = current + 1
      · exact ⟨e.job, hlast ▸ hnew⟩
      · obtain ⟨job, hjob⟩ := h.surjective n hstart (by omega)
        exact ⟨job, bumpOf_append hjob⟩
    · intro job other n hjob hother
      rcases hcases job n hjob with ⟨rfl, hlast⟩ | ⟨-, hold⟩ <;>
        rcases hcases other n hother with ⟨rfl, hlast'⟩ | ⟨-, hold'⟩
      · rfl
      · have hbounds := h.bounds other n hold'
        omega
      · have hbounds := h.bounds job n hold
        omega
      · exact h.injective job other n hold hold'
  · have hsame : ∀ job, bumpOf job (history ++ [e]) = bumpOf job history := by
      intro job
      by_cases heq : e.job = job
      · subst heq
        rw [bumpOf, sentBy_snoc_self, List.head?_append_of_ne_nil _ hfirst, bumpOf]
      · exact bumpOf_snoc_of_ne heq
    refine ⟨current, ?_, h.start_le, ?_, ?_, ?_⟩
    · rw [hsent.auditSeq hfirst]
      exact h.auditSeq
    · intro job n hjob
      rw [hsame] at hjob
      exact h.bounds job n hjob
    · intro n hstart hn
      obtain ⟨job, hjob⟩ := h.surjective n hstart hn
      exact ⟨job, (hsame job).trans hjob⟩
    · intro job other n hjob hother
      rw [hsame] at hjob hother
      exact h.injective job other n hjob hother

theorem counted (h : Interleaving PublishSent s history t) (hstart : s.db.auditSeq = some start) :
    ∃ current, Counted start history t current := by
  induction h with
  | idle =>
      refine ⟨start, hstart, le_refl start, ?_, ?_, ?_⟩
      · intro job n hjob
        cases hjob
      · intro n hlt hle
        omega
      · intro job other n hjob
        cases hjob
  | @exec history t last hrun hbefore hown hgood ih =>
      subst hbefore
      obtain ⟨current, hcounted⟩ := ih
      exact hcounted.snoc hgood

/-- A task that counts up later gets a larger number. -/
theorem bumpOf_lt (h : Interleaving PublishSent s (pre ++ post) t)
    (hstart : s.db.auditSeq = some start) {job other : ℕ} {n m : Int}
    (hjob : bumpOf job pre = some n) (hother : sentBy other pre = [])
    (hbump : bumpOf other (pre ++ post) = some m) : n < m := by
  obtain ⟨bump, hhead, hafter⟩ := Option.bind_eq_some_iff.mp hbump
  obtain ⟨first, e, rest, hsplit, rfl, rfl, hnone⟩ := exists_first_event hhead
  -- The task has sent nothing in the first part, so it counts up in the second.
  obtain ⟨between, rfl⟩ : ∃ between, first = pre ++ between := by
    rcases List.append_eq_append_iff.mp hsplit with ⟨between, hfirst, -⟩ | ⟨between, hpre, hrest⟩
    · exact ⟨between, hfirst⟩
    · cases between with
      | nil => exact ⟨[], by simpa using hpre.symm⟩
      | cons e' between =>
          rw [List.cons_append, List.cons.injEq] at hrest
          have hmem : e.toSent ∈ sentBy e.job pre :=
            mem_sentBy.mpr ⟨e, by simp [hpre, hrest.1], rfl, rfl⟩
          rw [hother] at hmem
          cases hmem
  obtain ⟨hrun, hgood, -⟩ := h.split hsplit
  obtain ⟨current, hcounted⟩ := counted hrun hstart
  have hle := (hcounted.bounds job n (bumpOf_append hjob)).2
  rw [hnone] at hgood
  rw [Sent.after, hgood.first, written, withDb_db, auditSeq_bumpSeq, hcounted.auditSeq,
    Option.map_some, Option.some.injEq] at hafter
  omega

/-! ## Reading -/

/-- Every task that has read has read what it had counted up to; a task that has
not read yet finds the counter there. -/
structure ReadsOwn (history : List PublishEvent) (s : AppState) : Prop where
  waiting : ∀ job bump, sentBy job history = [bump] → s.db.auditSeq = bump.after.db.auditSeq
  read : ∀ job bump read rest, sentBy job history = bump :: read :: rest →
    read.before.db.auditSeq = bump.after.db.auditSeq

theorem ReadsBeforeNextBump.prefix_of (h : ReadsBeforeNextBump (pre ++ post)) :
    ReadsBeforeNextBump pre := by
  rintro first e rest rfl hfirst
  exact h first e (rest ++ post) (by simp) hfirst

theorem ReadsOwn.snoc (h : ReadsOwn history e.before)
    (hsent : PublishSent e.request (sentBy e.job history) e.toSent)
    (hreads : sentBy e.job history = [] → ∀ other ∈ history,
      (sentBy other.job history).length ≠ 1) :
    ReadsOwn (history ++ [e]) e.after := by
  have hother : ∀ job, e.job ≠ job → sentBy job (history ++ [e]) = sentBy job history :=
    fun job hne => sentBy_snoc_of_ne hne
  constructor
  · intro job bump hjob
    by_cases heq : e.job = job
    · subst heq
      rw [sentBy_snoc_self] at hjob
      cases hpast : sentBy e.job history with
      | nil =>
          rw [hpast] at hjob
          cases hjob
          rfl
      | cons first past => simp [hpast] at hjob
    · rw [hother job heq] at hjob
      by_cases hfirst : sentBy e.job history = []
      · -- A first statement is only sent when no task waits for its reading.
        have hmem : bump ∈ sentBy job history := by simp [hjob]
        obtain ⟨earlier, hearlier, rfl, -⟩ := mem_sentBy.mp hmem
        exact absurd (by simp [hjob]) (hreads hfirst earlier hearlier)
      · rw [hsent.auditSeq hfirst]
        exact h.waiting job bump hjob
  · intro job bump read rest hjob
    by_cases heq : e.job = job
    · subst heq
      rw [sentBy_snoc_self] at hjob
      cases hpast : sentBy e.job history with
      | nil => simp [hpast] at hjob
      | cons first past =>
          cases past with
          | nil =>
              rw [hpast] at hjob
              cases hjob
              exact h.waiting e.job bump hpast
          | cons second past =>
              rw [hpast] at hjob
              cases hjob
              exact h.read e.job bump read past hpast
    · rw [hother job heq] at hjob
      exact h.read job bump read rest hjob

theorem readsOwn (h : Interleaving PublishSent s history t) (hreads : ReadsBeforeNextBump history) :
    ReadsOwn history t := by
  induction h with
  | idle => exact ⟨fun _ _ h => (by cases h), fun _ _ _ _ h => (by cases h)⟩
  | @exec history t last hrun hbefore hown hgood ih =>
      subst hbefore
      exact (ih hreads.prefix_of).snoc hgood (hreads history last [] rfl)

/-- Then the number of a task is the one it has counted up to. -/
theorem ReadsOwn.sequenceOf_eq (h : ReadsOwn history s) (job : ℕ) :
    sequenceOf job history = bumpOf job history := by
  unfold sequenceOf bumpOf
  cases hpast : sentBy job history with
  | nil => rfl
  | cons bump past =>
      cases past with
      | nil => rfl
      | cons read rest => exact h.read job bump read rest hpast

/-! ## The log -/

/-- The rows of the log have different numbers; those that are new have the number
of a task that has stored its row. -/
structure Logged (start : Int) (history : List PublishEvent) (s : AppState) : Prop where
  distinct : (s.db.hubAuditLog.rows.map (·.seq)).Nodup
  stored : ∀ row ∈ s.db.hubAuditLog.rows, row.seq ≤ start ∨
    ∃ job, 3 ≤ (sentBy job history).length ∧ bumpOf job history = some row.seq

theorem insertAudit_eq_ok {row : HubAuditLogRow} {db db' : Db} (h : insertAudit row db = .ok db') :
    db'.hubAuditLog.rows = db.hubAuditLog.rows ++ [row] := by
  unfold insertAudit at h
  cases hinsert : db.hubAuditLog.insert? row with
  | none => simp [hinsert] at h
  | some hubAuditLog =>
      rw [hinsert] at h
      cases h
      exact (Table.insert?_eq_some_iff.mp hinsert).2

theorem length_sentBy_le (job : ℕ) :
    (sentBy job history).length ≤ (sentBy job (history ++ [e])).length := by
  rw [sentBy_append, List.length_append]
  exact Nat.le_add_right ..

/-- A statement that writes no row. -/
theorem Logged.snoc_aside (h : Logged start history e.before)
    (hlog : e.after.db.hubAuditLog = e.before.db.hubAuditLog) :
    Logged start (history ++ [e]) e.after := by
  constructor
  · rw [hlog]
    exact h.distinct
  · rw [hlog]
    intro row hrow
    rcases h.stored row hrow with hold | ⟨job, hlength, hbump⟩
    · exact .inl hold
    · exact .inr ⟨job, hlength.trans (length_sentBy_le job), bumpOf_append hbump⟩

theorem Logged.snoc (h : Logged start history e.before)
    (hsent : PublishSent e.request (sentBy e.job history) e.toSent)
    (hcounted : Counted start history e.before current) (hreads : ReadsOwn history e.before) :
    Logged start (history ++ [e]) e.after := by
  cases hsent with
  | bump hpast hstatement => exact h.snoc_aside (by rw [Sent.after, hstatement]; rfl)
  | read bump hpast hstatement => exact h.snoc_aside (by rw [Sent.after, hstatement]; rfl)
  | aside hpast hseq hlog => exact h.snoc_aside hlog
  | store bump read seq hpast hseq hstatement =>
      have hbump : bumpOf e.job history = some seq := by
        rw [← hreads.sequenceOf_eq, sequenceOf, hpast]
        exact hseq
      rcases executed_cases (insertAudit (e.request.event.row e.request.env seq)) e.before with
        hsame | ⟨db, hdb, hafter⟩
      · apply h.snoc_aside
        rw [Sent.after, hstatement, hsame]
      · have hrows : e.after.db.hubAuditLog.rows =
            e.before.db.hubAuditLog.rows ++ [e.request.event.row e.request.env seq] := by
          rw [Sent.after, hstatement, hafter, withDb_db, insertAudit_eq_ok hdb]
        have hnow : 3 ≤ (sentBy e.job (history ++ [e])).length := by
          rw [sentBy_snoc_self, hpast]
          exact le_refl 3
        constructor
        · -- A row with the same number would come from a task that has stored its row.
          rw [hrows, List.map_append, List.nodup_append]
          refine ⟨h.distinct, by simp, fun n hn m hm heq => ?_⟩
          rw [List.map_cons, List.map_nil, List.mem_singleton] at hm
          have hm' : m = seq := hm
          obtain ⟨row, hrow, rfl⟩ := List.mem_map.mp hn
          rcases h.stored row hrow with hold | ⟨job, hlength, hjob⟩
          · have hlt := (hcounted.bounds e.job seq hbump).1
            omega
          · rw [heq, hm'] at hjob
            have hown := hcounted.injective job e.job seq hjob hbump
            rw [hown, hpast] at hlength
            exact absurd hlength (by simp)
        · rw [hrows]
          intro row hrow
          rcases List.mem_append.mp hrow with hrow | hrow
          · rcases h.stored row hrow with hold | ⟨job, hlength, hjob⟩
            · exact .inl hold
            · exact .inr ⟨job, hlength.trans (length_sentBy_le job), bumpOf_append hjob⟩
          · rw [List.mem_singleton.mp hrow]
            exact .inr ⟨e.job, hnow, bumpOf_append hbump⟩

theorem logged (h : Interleaving PublishSent s history t) (hreads : ReadsBeforeNextBump history)
    (hstart : s.db.auditSeq = some start) (hdistinct : (s.db.hubAuditLog.rows.map (·.seq)).Nodup)
    (hold : ∀ row ∈ s.db.hubAuditLog.rows, row.seq ≤ start) : Logged start history t := by
  induction h with
  | idle => exact ⟨hdistinct, fun row hrow => .inl (hold row hrow)⟩
  | @exec history t last hrun hbefore hown hgood ih =>
      subst hbefore
      obtain ⟨current, hcounted⟩ := counted hrun hstart
      exact (ih hreads.prefix_of).snoc hgood hcounted (readsOwn hrun hreads.prefix_of)

end History

/-- In every schedule in which each task reads the counter before the next one
counts up, the numbers are as promised. -/
theorem publish_auditSequence (readCaps : String → Option (List String))
    (moves : List (Move PublishRequest)) (s : AppState) (start : Int)
    (hstart : s.db.auditSeq = some start) (hdistinct : (s.db.hubAuditLog.rows.map (·.seq)).Nodup)
    (hold : ∀ row ∈ s.db.hubAuditLog.rows, row.seq ≤ start)
    (hreads : ReadsBeforeNextBump (publishRun readCaps moves s).history) :
    AuditSequence start (publishRun readCaps moves s) := by
  have hrun := (publishRun_sound readCaps moves s).run
  obtain ⟨current, hcounted⟩ := counted hrun hstart
  have hsame := (readsOwn hrun hreads).sequenceOf_eq
  constructor
  · exact (logged hrun hreads hstart hdistinct hold).distinct
  · intro n current' hcurrent hlt hle
    rw [hcounted.auditSeq] at hcurrent
    cases hcurrent
    obtain ⟨job, hjob⟩ := hcounted.surjective n hlt hle
    refine ⟨job, (hsame job).trans hjob, fun other hother => ?_⟩
    exact hcounted.injective other job n ((hsame other).symm.trans hother) hjob
  · intro pre e post first second hsplit _ hfirst job hnone hsecond
    rw [hsame] at hfirst hsecond
    have hsplit' : (publishRun readCaps moves s).history = (pre ++ [e]) ++ post := by
      rw [hsplit, List.append_assoc]
      rfl
    rw [hsplit'] at hrun hfirst hsecond
    -- The first task has counted up by then.
    have hbump : bumpOf e.job (pre ++ [e]) = some first := by
      have hne : sentBy e.job (pre ++ [e]) ≠ [] := by simp [sentBy_snoc_self]
      rwa [bumpOf, sentBy_append, List.head?_append_of_ne_nil _ hne] at hfirst
    exact bumpOf_lt hrun hstart hbump hnone hsecond

/-- Two events on a new hub. -/
def joinEvent : PublishRequest :=
  ⟨⟨"first", 10⟩, ⟨"member.joined", none, none, none, .object []⟩⟩

def leaveEvent : PublishRequest :=
  ⟨⟨"second", 11⟩, ⟨"member.left", none, none, none, .object []⟩⟩

/-- The second event is published while the first is being pushed. -/
def orderlyPublishes : List (Move PublishRequest) :=
  [.start joinEvent, .exec 0, .exec 0, .start leaveEvent, .exec 1, .exec 0, .exec 1, .exec 1,
    .exec 0]

theorem publish_auditSequence_orderly :
    AuditSequence 0 (publishRun (fun _ => none) orderlyPublishes { db := .migrated }) :=
  publish_auditSequence _ _ _ 0 (by decide) (by decide) (by decide)
    (forall_split_iff.mpr (by decide +kernel))

/-- Both tasks count up before either of them reads. -/
def racingPublishes : List (Move PublishRequest) :=
  [.start joinEvent, .start leaveEvent, .exec 0, .exec 1, .exec 0, .exec 1, .exec 0, .exec 1]

/-- The two rows share a number. -/
theorem racingPublishes_not_auditSequence :
    ¬ AuditSequence 0 (publishRun (fun _ => none) racingPublishes { db := .migrated }) := by
  intro h
  exact absurd h.distinct (by decide +kernel)

end Voxply.Hub
