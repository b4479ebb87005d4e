/-
# The outbox loses nothing

The request that sends a message and the retry worker work on the same rows of
the outbox without a lock: both may deliver, both may fail, and either may
rewrite what the other has written.  A row leaves the outbox only by a statement
that follows an accepted delivery of the same message to the same hub.  The
counter of attempts stays within the schedule, since the worker writes back one
more than it has read from a row that was not given up.
-/

import Voxply.Hub.DmEnvelopes

namespace Voxply.Hub

open Voxply.Math Voxply.Identity

variable {lib : Crates} {codec : DmCodec} {s t : AppState} {history : DmHistory}
  {past : List (Sent AppState)} {sent : Sent AppState} {e : Event DmRequest AppState}

/-! ## Requests -/

/-- The requests that work on the outbox. -/
def DmRequest.IsDelivery : DmRequest → Prop
  | .send .. => True
  | .worker _ => True
  | _ => False

/-- The worker is started once. -/
def WorkerOnce (moves : List (Move DmRequest)) : Prop :=
  ∀ (i j : ℕ) (ticks ticks' : List TickEnv),
    (moves.filterMap Move.request?)[i]? = some (.worker ticks) →
      (moves.filterMap Move.request?)[j]? = some (.worker ticks') → i = j

/-! ## Effects -/

/-- What a statement does to the outbox. -/
inductive OutboxEffect (past : List (Sent AppState)) (sent : Sent AppState) : Prop
  | same (h : sent.after.db.dmOutbox = sent.before.db.dmOutbox)
  | queue (row : DmOutboxRow) (hattempts : row.attempts = 0) (hbounced : row.bouncedAt = none)
      (h : sent.statement = executed (insertOutboxOrIgnore row))
  | remove (messageId hubUrl : String)
      (hcause : RemoteAccepted messageId hubUrl past ∨
        ∃ row, row.messageId = messageId ∧ FoundGone row past)
      (h : sent.statement = written (deleteOutbox messageId hubUrl))
  | postpone (messageId hubUrl : String) (nextAttemptAt : Int) (error : String)
      (h : sent.statement = written (failOutbox messageId hubUrl nextAttemptAt error))
  | reschedule (row : DmOutboxRow) (nextAt : Int) (error : String)
      (hdue : ∃ read ∈ past, ReadsDue row read)
      (hindex : backoffIndex row.attempts < backoffSecs.length)
      (h : sent.statement = written (rescheduleOutbox row nextAt error))
  | bounce (row : DmOutboxRow) (now : Int) (error : String)
      (hdue : ∃ read ∈ past, ReadsDue row read)
      (h : sent.statement = written (bounceOutbox row now error))

theorem dmOutbox_insertDmMessage {row : DmMessageRow} {db db' : Db}
    (h : insertDmMessage row db = .ok db') : db'.dmOutbox = db.dmOutbox := by
  obtain ⟨-, -, -, hframe⟩ := insertDmMessage_eq_ok h
  rw [hframe]

theorem SendSent.outboxEffect {env : SendEnv} {user conversationId : String} {req : SendDmRequest}
    (h : SendSent lib codec env user conversationId req past sent) : OutboxEffect past sent := by
  cases h with
  | aside h => exact .same h.dmOutbox
  | store members dm _ h =>
      exact .same (kept_executed Db.dmOutbox h fun _ => dmOutbox_insertDmMessage)
  | announce row event _ _ _ h => exact .same (by rw [Sent.after, h]; rfl)
  | queue row _ hattempts hbounced h => exact .queue row hattempts hbounced h
  | attempt members dm hubUrl _ h => exact .same (by rw [Sent.after, h]; rfl)
  | accepted hubUrl h => exact .same (by rw [Sent.after, h]; rfl)
  | dequeue hubUrl haccepted h => exact .remove env.messageId hubUrl (.inl haccepted) h
  | postpone hubUrl error h => exact .postpone env.messageId hubUrl _ error h

theorem WorkerSent.outboxEffect (h : WorkerSent past sent) : OutboxEffect past sent := by
  cases h with
  | aside h => exact .same h.dmOutbox
  | retry row h =>
      cases h with
      | aside h => exact .same h.dmOutbox
      | attempt envelope _ _ h => exact .same (by rw [Sent.after, h]; rfl)
      | accepted h => exact .same (by rw [Sent.after, h]; rfl)
      | dequeue haccepted h => exact .remove _ _ (.inl haccepted) h
      | orphan hgone h => exact .remove _ _ (.inr ⟨row, rfl, hgone⟩) h
      | reschedule nextAt error hdue hindex h => exact .reschedule row nextAt error hdue hindex h
      | bounce now error hdue _ h => exact .bounce row now error hdue h

theorem DmRequest.IsDelivery.outboxEffect {request : DmRequest} (hkind : request.IsDelivery)
    (h : request.Sends lib codec past sent) : OutboxEffect past sent := by
  cases request with
  | create => exact hkind.elim
  | send env user conversationId req => exact SendSent.outboxEffect h
  | receive => exact hkind.elim
  | worker ticks => exact WorkerSent.outboxEffect h

/-! ## The rows of the outbox -/

/-- The rows of the outbox belong to messages, and their counters stay within
the schedule: those that are not given up have an attempt left. -/
structure OutboxOk (db : Db) : Prop where
  message : ∀ row ∈ db.dmOutbox.rows, db.dmMessages.has row.messageId = true
  nonneg : ∀ row ∈ db.dmOutbox.rows, 0 ≤ row.attempts
  attempts : ∀ row ∈ db.dmOutbox.rows, row.attempts ≤ backoffSecs.length + 1
  pending : ∀ row ∈ db.dmOutbox.rows, row.bouncedAt = none → row.attempts ≤ backoffSecs.length

/-- A counter within the schedule is its own index. -/
theorem backoffIndex_eq {attempts : Int} (hnonneg : 0 ≤ attempts)
    (hle : attempts ≤ backoffSecs.length) : (backoffIndex attempts : Int) = attempts := by
  have hlength : (backoffSecs.length : Int) = 7 := rfl
  rw [backoffIndex, Int.emod_eq_of_lt hnonneg (by omega), Int.toNat_of_nonneg hnonneg]

theorem ReadsDue.bounds {row : DmOutboxRow} (h : ReadsDue row sent)
    (hok : OutboxOk sent.before.db) :
    row ∈ sent.before.db.dmOutbox.rows ∧ row.bouncedAt = none ∧ 0 ≤ row.attempts ∧
      row.attempts ≤ backoffSecs.length := by
  obtain ⟨-, now, hrow⟩ := h
  have hmem := (dueDeliveries_sublist sent.before.db now).subset hrow
  have hdue := (List.mem_filter.mp (List.mem_of_mem_take hrow)).2
  rw [decide_eq_true_eq] at hdue
  exact ⟨hmem, hdue.1, hok.nonneg row hmem, hok.pending row hmem hdue.1⟩

/-- An update keeps the rows in order if what it writes is. -/
theorem outboxOk_updateOutbox {messageId hubUrl : String} {f : DmOutboxRow → DmOutboxRow}
    {hkey : ∀ row, (f row).key = row.key} {db : Db} (h : OutboxOk db)
    (hf : ∀ old ∈ db.dmOutbox.rows, 0 ≤ (f old).attempts ∧
      (f old).attempts ≤ backoffSecs.length + 1 ∧
      ((f old).bouncedAt = none → (f old).attempts ≤ backoffSecs.length)) :
    OutboxOk (updateOutbox messageId hubUrl f hkey db) where
  message row hrow := by
    rcases mem_updateOutbox hrow with ⟨hrow, -⟩ | ⟨old, hold, -, rfl⟩
    · exact h.message row hrow
    · rw [(Prod.mk.inj (hkey old)).1]
      exact h.message old hold
  nonneg row hrow := by
    rcases mem_updateOutbox hrow with ⟨hrow, -⟩ | ⟨old, hold, -, rfl⟩
    · exact h.nonneg row hrow
    · exact (hf old hold).1
  attempts row hrow := by
    rcases mem_updateOutbox hrow with ⟨hrow, -⟩ | ⟨old, hold, -, rfl⟩
    · exact h.attempts row hrow
    · exact (hf old hold).2.1
  pending row hrow := by
    rcases mem_updateOutbox hrow with ⟨hrow, -⟩ | ⟨old, hold, -, rfl⟩
    · exact h.pending row hrow
    · exact (hf old hold).2.2

theorem OutboxOk.of_subset {db db' : Db} (h : OutboxOk db)
    (hrows : ∀ row ∈ db'.dmOutbox.rows, row ∈ db.dmOutbox.rows)
    (hmessages : ∀ id, db.dmMessages.has id = true → db'.dmMessages.has id = true) :
    OutboxOk db' :=
  ⟨fun row hrow => hmessages _ (h.message row (hrows row hrow)),
    fun row hrow => h.nonneg row (hrows row hrow),
    fun row hrow => h.attempts row (hrows row hrow),
    fun row hrow => h.pending row (hrows row hrow)⟩

/-- A delivery is queued for a message that is there, with its counter at
zero. -/
theorem OutboxOk.insert {db db' : Db} (h : OutboxOk db) {row : DmOutboxRow}
    (hattempts : row.attempts = 0) (hdb : insertOutboxOrIgnore row db = .ok db') :
    OutboxOk db' := by
  have hlength : (backoffSecs.length : Int) = 7 := rfl
  rcases insertOutboxOrIgnore_eq_ok hdb with ⟨rfl, -⟩ | ⟨hhas, hrows, hframe⟩
  · exact h
  have hmessages : db'.dmMessages = db.dmMessages := by rw [hframe]
  have hcases : ∀ new ∈ db'.dmOutbox.rows, new ∈ db.dmOutbox.rows ∨ new = row := by
    intro new hnew
    rw [hrows] at hnew
    rcases List.mem_append.mp hnew with hnew | hnew
    · exact .inl hnew
    · exact .inr (List.mem_singleton.mp hnew)
  constructor
  · intro new hnew
    rw [hmessages]
    rcases hcases new hnew with hnew | rfl
    · exact h.message new hnew
    · exact hhas
  · intro new hnew
    rcases hcases new hnew with hnew | rfl
    · exact h.nonneg new hnew
    · rw [hattempts]
  · intro new hnew
    rcases hcases new hnew with hnew | rfl
    · exact h.attempts new hnew
    · omega
  · intro new hnew
    rcases hcases new hnew with hnew | rfl
    · exact h.pending new hnew
    · omega

/-- A statement keeps the rows in order, if those that it goes by were. -/
theorem OutboxEffect.outboxOk (h : OutboxEffect past sent) (hmessage : MessageEffect past sent)
    (hpast : ∀ earlier ∈ past, OutboxOk earlier.before.db) (hok : OutboxOk sent.before.db) :
    OutboxOk sent.after.db := by
  have hlength : (backoffSecs.length : Int) = 7 := rfl
  cases h with
  | same h =>
      apply hok.of_subset
      · intro row hrow
        rwa [h] at hrow
      · intro id hid
        obtain ⟨row, hrow, heq⟩ := Table.has_iff.mp hid
        exact Table.has_iff.mpr ⟨row, hmessage.keeps hrow, heq⟩
  | queue row hattempts hbounced h =>
      rw [Sent.after, h]
      rcases executed_cases (insertOutboxOrIgnore row) sent.before with heq | ⟨db, hdb, heq⟩
      · rwa [heq]
      · rw [heq]
        exact hok.insert hattempts hdb
  | remove messageId hubUrl _ h =>
      rw [Sent.after, h]
      exact hok.of_subset (fun row hrow => List.mem_of_mem_filter hrow) fun _ hid => hid
  | postpone messageId hubUrl nextAttemptAt error h =>
      rw [Sent.after, h]
      exact outboxOk_updateOutbox hok fun old _ => ⟨by simp, by simp [hlength], by simp [hlength]⟩
  | reschedule row nextAt error hdue hindex h =>
      obtain ⟨read, hread, hreads⟩ := hdue
      obtain ⟨-, -, hnonneg, hle⟩ := hreads.bounds (hpast read hread)
      have heq := backoffIndex_eq hnonneg hle
      rw [Sent.after, h]
      apply outboxOk_updateOutbox hok
      intro old _
      dsimp only
      omega
  | bounce row now error hdue h =>
      obtain ⟨read, hread, hreads⟩ := hdue
      obtain ⟨-, -, hnonneg, hle⟩ := hreads.bounds (hpast read hread)
      rw [Sent.after, h]
      apply outboxOk_updateOutbox hok
      intro old _
      dsimp only
      refine ⟨by omega, by omega, fun hnone => ?_⟩
      cases hnone

theorem has_updateOutbox {messageId hubUrl : String} {f : DmOutboxRow → DmOutboxRow}
    {hkey : ∀ row, (f row).key = row.key} {db : Db} {key : String × String}
    (h : db.dmOutbox.has key = true) :
    (updateOutbox messageId hubUrl f hkey db).dmOutbox.has key = true := by
  obtain ⟨row, hrow, rfl⟩ := Table.has_iff.mp h
  refine Table.has_iff.mpr ⟨_, List.mem_map_of_mem hrow, ?_⟩
  dsimp only
  split_ifs
  · exact hkey row
  · rfl

/-- What takes a row out of the outbox. -/
theorem OutboxEffect.removes (h : OutboxEffect past sent) {messageId hubUrl : String}
    (hbefore : sent.before.db.dmOutbox.has (messageId, hubUrl) = true)
    (hafter : sent.after.db.dmOutbox.has (messageId, hubUrl) = false) :
    RemoteAccepted messageId hubUrl past ∨
      ∃ row, row.messageId = messageId ∧ FoundGone row past := by
  have hkept (hhas : sent.after.db.dmOutbox.has (messageId, hubUrl) = true) : False := by
    rw [hafter] at hhas
    cases hhas
  cases h with
  | same h => exact (hkept (h ▸ hbefore)).elim
  | queue row _ _ h =>
      apply (hkept _).elim
      rw [Sent.after, h]
      rcases executed_cases (insertOutboxOrIgnore row) sent.before with heq | ⟨db, hdb, heq⟩
      · rwa [heq]
      rw [heq]
      rcases insertOutboxOrIgnore_eq_ok hdb with ⟨rfl, -⟩ | ⟨-, hrows, -⟩
      · exact hbefore
      · obtain ⟨old, hold, hkey⟩ := Table.has_iff.mp hbefore
        refine Table.has_iff.mpr ⟨old, ?_, hkey⟩
        rw [withDb_db, hrows]
        exact List.mem_append_left _ hold
  | remove messageId' hubUrl' hcause h =>
      by_cases hkey : (messageId, hubUrl) = (messageId', hubUrl')
      · cases hkey
        exact hcause
      · apply (hkept _).elim
        obtain ⟨old, hold, heq⟩ := Table.has_iff.mp hbefore
        rw [Sent.after, h]
        refine Table.has_iff.mpr ⟨old, List.mem_filter.mpr ⟨hold, ?_⟩, heq⟩
        rw [heq]
        exact decide_eq_true hkey
  | postpone messageId' hubUrl' nextAttemptAt error h =>
      exact (hkept (by rw [Sent.after, h]; exact has_updateOutbox hbefore)).elim
  | reschedule row nextAt error _ _ h =>
      exact (hkept (by rw [Sent.after, h]; exact has_updateOutbox hbefore)).elim
  | bounce row now error _ h =>
      exact (hkept (by rw [Sent.after, h]; exact has_updateOutbox hbefore)).elim

/-! ## Histories -/

/-- A delivery of the message to the hub has been accepted. -/
def AcceptedIn (messageId hubUrl : String) (history : DmHistory) : Prop :=
  ∃ e ∈ history, e.after.dmAccepted = e.before.dmAccepted ++ [(messageId, hubUrl)]

section Histories

variable (hrun : Interleaving (DmRequest.Sends lib codec) s history t)
  (hkind : ∀ e ∈ history, e.request.IsDelivery) (hstart : OutboxOk s.db)

include hrun hkind hstart

/-- The rows of the outbox are in order, and have been all along. -/
theorem outboxOk_run : OutboxOk t.db ∧ ∀ e ∈ history, OutboxOk e.before.db := by
  refine Interleaving.invariant (fun history t => OutboxOk t.db ∧
    ∀ e ∈ history, OutboxOk e.before.db) ⟨hstart, by simp⟩ ?_ hrun hkind
  rintro history e - hkind - hgood ⟨hnow, hearlier⟩
  have hpast : ∀ earlier ∈ sentBy e.job history, OutboxOk earlier.before.db := by
    intro earlier hmem
    obtain ⟨e', he', -, rfl⟩ := mem_sentBy.mp hmem
    exact hearlier e' he'
  refine ⟨((hkind e (by simp)).outboxEffect hgood).outboxOk hgood.messageEffect hpast hnow, ?_⟩
  intro e' he'
  rcases List.mem_append.mp he' with he' | he'
  · exact hearlier e' he'
  · rwa [List.mem_singleton.mp he']

/-- The message of a row that was due is not found to be gone. -/
theorem not_foundGone {pre post : DmHistory} (hsplit : history = pre ++ e :: post)
    (row : DmOutboxRow) : ¬ FoundGone row (sentBy e.job pre) := by
  rintro ⟨start, gone, since, heq, ⟨read, hread, hreads⟩, hnone⟩
  have hprefix : start ++ [gone] <+: sentBy e.job pre := ⟨since, by rw [heq]; simp⟩
  obtain ⟨pre', goneEvent, post', rfl, -, rfl, rfl⟩ := exists_event hprefix
  obtain ⟨readEvent, hreadEvent, -, rfl⟩ := mem_sentBy.mp hread
  have hreadMem : readEvent ∈ history := by
    rw [hsplit]
    simp [hreadEvent]
  have hok := (outboxOk_run hrun hkind hstart).2 readEvent hreadMem
  obtain ⟨hrow, -⟩ := hreads.bounds hok
  obtain ⟨message, hmessage, hid⟩ := Table.has_iff.mp (hok.message row hrow)
  have hsplit' : history = pre' ++ goneEvent :: (post' ++ e :: post) := by
    rw [hsplit]
    simp
  have hnow := read_now (hrun.split hsplit').1 hreadEvent hmessage
  exact Table.find?_eq_none_iff.mp hnone message hnow hid

/-- A row leaves the outbox only after its delivery was accepted. -/
theorem accepted_of_removed {pre post : DmHistory} (hsplit : history = pre ++ e :: post)
    {messageId hubUrl : String}
    (hbefore : e.before.db.dmOutbox.has (messageId, hubUrl) = true)
    (hafter : e.after.db.dmOutbox.has (messageId, hubUrl) = false) :
    AcceptedIn messageId hubUrl pre := by
  obtain ⟨-, hgood, -⟩ := hrun.split hsplit
  have heffect := (hkind e (by rw [hsplit]; simp)).outboxEffect hgood
  rcases heffect.removes hbefore hafter with ⟨earlier, hearlier, hstatement⟩ | ⟨row, -, hgone⟩
  · obtain ⟨e', he', -, rfl⟩ := mem_sentBy.mp hearlier
    refine ⟨e', he', ?_⟩
    rw [Sent.after, hstatement]
    rfl
  · exact (not_foundGone hrun hkind hstart hsplit row hgone).elim

/-- What has been queued is accepted, or still there. -/
theorem accepted_or_queued {pre post : DmHistory} (hsplit : history = pre ++ e :: post)
    {messageId hubUrl : String}
    (hqueued : e.after.db.dmOutbox.has (messageId, hubUrl) = true) :
    AcceptedIn messageId hubUrl history ∨ t.db.dmOutbox.has (messageId, hubUrl) = true := by
  by_cases haccepted : AcceptedIn messageId hubUrl history
  · exact .inl haccepted
  right
  apply hrun.kept_since (fun u => u.db.dmOutbox.has (messageId, hubUrl) = true) hsplit _ hqueued
  intro later hlater hbefore
  by_contra hafter
  rw [Bool.not_eq_true] at hafter
  have hmem : later ∈ history := by
    rw [hsplit]
    simp [hlater]
  obtain ⟨front, back, hlast⟩ := List.append_of_mem hmem
  obtain ⟨e', he', heq⟩ := accepted_of_removed hrun hkind hstart hlast hbefore hafter
  exact haccepted ⟨e', by rw [hlast]; exact List.mem_append_left _ he', heq⟩

end Histories

/-! ## Rows that were given up -/

theorem SendSent.spares {env : SendEnv} {user conversationId : String} {req : SendDmRequest}
    {key : String × String} (h : SendSent lib codec env user conversationId req past sent) :
    Spares key sent := by
  cases h with
  | aside h => exact spares_of_dmOutbox h.dmOutbox
  | store members dm _ h =>
      exact spares_of_dmOutbox (kept_executed Db.dmOutbox h fun _ => dmOutbox_insertDmMessage)
  | announce row event _ _ _ h => exact spares_of_dmOutbox (by rw [Sent.after, h]; rfl)
  | queue row _ _ hbounced h =>
      intro hunbounced new hnew hkey
      rw [Sent.after, h] at hnew
      rcases executed_cases (insertOutboxOrIgnore row) sent.before with heq | ⟨db, hdb, heq⟩
      · rw [heq] at hnew
        exact hunbounced new hnew hkey
      rw [heq, withDb_db] at hnew
      rcases insertOutboxOrIgnore_eq_ok hdb with ⟨rfl, -⟩ | ⟨-, hrows, -⟩
      · exact hunbounced new hnew hkey
      rw [hrows] at hnew
      rcases List.mem_append.mp hnew with hnew | hnew
      · exact hunbounced new hnew hkey
      · rwa [List.mem_singleton.mp hnew]
  | attempt members dm hubUrl _ h => exact spares_of_dmOutbox (by rw [Sent.after, h]; rfl)
  | accepted hubUrl h => exact spares_of_dmOutbox (by rw [Sent.after, h]; rfl)
  | dequeue hubUrl _ h => exact spares_deleteOutbox h
  | postpone hubUrl error h => exact spares_updateOutbox h fun _ _ => rfl

/-- The worker attempts a row that it has found due. -/
theorem WorkerSent.attempted {attempt : DmAttempt} (h : WorkerSent past sent)
    (hattempt : sent.after.dmAttempts = sent.before.dmAttempts ++ [attempt]) :
    ∃ row, row.key = (attempt.envelope.messageId, attempt.hubUrl) ∧ StillDue row past := by
  have hnone (hsame : sent.after.dmAttempts = sent.before.dmAttempts) : False := by
    rw [hsame] at hattempt
    simp at hattempt
  cases h with
  | aside h => exact (hnone h.dmAttempts).elim
  | retry row h =>
      cases h with
      | aside h => exact (hnone h.dmAttempts).elim
      | attempt envelope hid hdue h =>
          rw [Sent.after, h] at hattempt
          have hlast := List.append_cancel_left hattempt
          rw [← List.singleton_inj.mp hlast]
          exact ⟨row, by rw [hid]; rfl, hdue⟩
      | accepted h => exact (hnone (by rw [Sent.after, h]; rfl)).elim
      | dequeue _ h => exact (hnone (by rw [Sent.after, h]; rfl)).elim
      | orphan _ h => exact (hnone (by rw [Sent.after, h]; rfl)).elim
      | reschedule nextAt error _ _ h => exact (hnone (by rw [Sent.after, h]; rfl)).elim
      | bounce now error _ _ h => exact (hnone (by rw [Sent.after, h]; rfl)).elim

/-- A retry is by the worker. -/
theorem DmRequest.IsDelivery.retried {request : DmRequest} (hkind : request.IsDelivery)
    (h : request.Sends lib codec past sent) {attempt : DmAttempt}
    (hattempt : sent.after.dmAttempts = sent.before.dmAttempts ++ [attempt])
    (hretry : attempt.retry = true) :
    ∃ ticks, request = .worker ticks ∧
      ∃ row, row.key = (attempt.envelope.messageId, attempt.hubUrl) ∧ StillDue row past := by
  cases request with
  | create => exact hkind.elim
  | send env user conversationId req =>
      obtain ⟨members, dm, -, -, hfirst⟩ := SendSent.attempted h hattempt
      rw [hfirst] at hretry
      cases hretry
  | receive => exact hkind.elim
  | worker ticks => exact ⟨ticks, rfl, WorkerSent.attempted h hattempt⟩

theorem unbounced_of_readsDue {row : DmOutboxRow} (h : ReadsDue row sent) :
    Unbounced row.key sent.before.db := by
  obtain ⟨-, now, hrow⟩ := h
  intro other hother hkey
  have hmem := (dueDeliveries_sublist sent.before.db now).subset hrow
  have hdue := (List.mem_filter.mp (List.mem_of_mem_take hrow)).2
  rw [decide_eq_true_eq] at hdue
  rw [sent.before.db.dmOutbox.eq_of_key_eq hother hmem hkey]
  exact hdue.1

/-- A row that the worker attempts has not been given up: it had not been when
the worker read it, and nobody but the worker gives rows up. -/
theorem unbounced_of_retry (hrun : Interleaving (DmRequest.Sends lib codec) s history t)
    (hkind : ∀ e ∈ history, e.request.IsDelivery)
    (hworker : ∀ e ∈ history, ∀ e' ∈ history, ∀ ticks ticks', e.request = .worker ticks →
      e'.request = .worker ticks' → e.job = e'.job)
    (he : e ∈ history) {attempt : DmAttempt}
    (hattempt : e.after.dmAttempts = e.before.dmAttempts ++ [attempt])
    (hretry : attempt.retry = true) :
    Unbounced (attempt.envelope.messageId, attempt.hubUrl) e.before.db := by
  obtain ⟨pre, post, hsplit⟩ := List.append_of_mem he
  obtain ⟨hpre, hgood, -⟩ := hrun.split hsplit
  obtain ⟨ticks, hrequest, row, hkey, start, read, since, heq, hreads, hspared⟩ :=
    (hkind e he).retried hgood hattempt hretry
  rw [← hkey]
  have hprefix : start ++ [read] <+: sentBy e.job pre := ⟨since, by rw [heq]; simp⟩
  obtain ⟨pre', readEvent, post', rfl, hreadJob, rfl, rfl⟩ := exists_event hprefix
  have hsince : sentBy e.job post' = since := by
    rw [sentBy_append, List.append_cancel_left_eq] at heq
    have hcons : sentBy e.job (readEvent :: post') =
        readEvent.toSent :: sentBy e.job post' := by
      simp [sentBy, hreadJob]
    rw [hcons] at heq
    exact (List.cons.inj heq).2
  apply hpre.kept_from (fun u => Unbounced row.key u.db) rfl _ (unbounced_of_readsDue hreads)
  intro later hlater
  by_cases hjob : later.job = e.job
  · -- The worker has gone on with other rows.
    rcases List.mem_cons.mp hlater with rfl | hlater
    · exact spares_of_dmOutbox (by rw [Sent.after, hreads.1]; rfl)
    · apply hspared
      rw [← hsince]
      exact mem_sentBy.mpr ⟨later, hlater, hjob, rfl⟩
  · -- Another job is not a worker.
    have hmem : later ∈ history := by
      rw [hsplit]
      simp only [List.mem_append]
      exact .inl (.inr hlater)
    obtain ⟨past, hlaterGood⟩ := hrun.good_of_mem hmem
    cases hlaterRequest : later.request with
    | create => exact absurd (hkind later hmem) (by rw [hlaterRequest]; exact id)
    | send env user conversationId req =>
        rw [hlaterRequest] at hlaterGood
        exact SendSent.spares hlaterGood
    | receive => exact absurd (hkind later hmem) (by rw [hlaterRequest]; exact id)
    | worker ticks' =>
        exact absurd (hworker later hmem e he ticks' ticks hlaterRequest hrequest) hjob

/-! ## Delivery URLs -/

/-- What the delivery URLs are resolved from stays as it is. -/
structure Unmoved (s t : AppState) : Prop where
  users : t.db.users = s.db.users
  homeHubDesignations : t.db.homeHubDesignations = s.db.homeHubDesignations
  conversationMembers : t.db.conversationMembers = s.db.conversationMembers

theorem DmAside.unmoved (h : DmAside s t) : Unmoved s t :=
  ⟨h.users, h.homeHubDesignations, h.conversationMembers⟩

theorem unmoved_statement {f : AppState → AppState} (h : sent.statement = f)
    (hf : ∀ s, Unmoved s (f s)) : Unmoved sent.before sent.after := by
  rw [Sent.after, h]
  exact hf sent.before

theorem unmoved_executed {f : Db → Except SqlError Db}
    (hf : ∀ s db, f s.db = .ok db → Unmoved s (s.withDb db)) (s : AppState) :
    Unmoved s (executed f s) := by
  rcases executed_cases f s with heq | ⟨db, hdb, heq⟩
  · rw [heq]
    exact ⟨rfl, rfl, rfl⟩
  · rw [heq]
    exact hf s db hdb

theorem unmoved_insertDmMessage (row : DmMessageRow) (s : AppState) :
    Unmoved s (executed (insertDmMessage row) s) := by
  apply unmoved_executed
  intro s db hdb
  obtain ⟨-, -, -, hframe⟩ := insertDmMessage_eq_ok hdb
  rw [hframe]
  exact ⟨rfl, rfl, rfl⟩

theorem unmoved_insertOutboxOrIgnore (row : DmOutboxRow) (s : AppState) :
    Unmoved s (executed (insertOutboxOrIgnore row) s) := by
  apply unmoved_executed
  intro s db hdb
  rcases insertOutboxOrIgnore_eq_ok hdb with ⟨rfl, -⟩ | ⟨-, -, hframe⟩
  · exact ⟨rfl, rfl, rfl⟩
  · rw [hframe]
    exact ⟨rfl, rfl, rfl⟩

theorem SendSent.unmoved {env : SendEnv} {user conversationId : String} {req : SendDmRequest}
    (h : SendSent lib codec env user conversationId req past sent) :
    Unmoved sent.before sent.after := by
  cases h with
  | aside h => exact h.unmoved
  | store members dm _ h => exact unmoved_statement h (unmoved_insertDmMessage dm.row)
  | announce row event _ _ _ h => exact unmoved_statement h fun _ => ⟨rfl, rfl, rfl⟩
  | queue row _ _ _ h => exact unmoved_statement h (unmoved_insertOutboxOrIgnore row)
  | attempt members dm hubUrl _ h => exact unmoved_statement h fun _ => ⟨rfl, rfl, rfl⟩
  | accepted hubUrl h => exact unmoved_statement h fun _ => ⟨rfl, rfl, rfl⟩
  | dequeue hubUrl _ h => exact unmoved_statement h fun _ => ⟨rfl, rfl, rfl⟩
  | postpone hubUrl error h => exact unmoved_statement h fun _ => ⟨rfl, rfl, rfl⟩

theorem WorkerSent.unmoved (h : WorkerSent past sent) : Unmoved sent.before sent.after := by
  cases h with
  | aside h => exact h.unmoved
  | retry row h =>
      cases h with
      | aside h => exact h.unmoved
      | attempt envelope _ _ h => exact unmoved_statement h fun _ => ⟨rfl, rfl, rfl⟩
      | accepted h => exact unmoved_statement h fun _ => ⟨rfl, rfl, rfl⟩
      | dequeue _ h => exact unmoved_statement h fun _ => ⟨rfl, rfl, rfl⟩
      | orphan _ h => exact unmoved_statement h fun _ => ⟨rfl, rfl, rfl⟩
      | reschedule nextAt error _ _ h => exact unmoved_statement h fun _ => ⟨rfl, rfl, rfl⟩
      | bounce now error _ _ h => exact unmoved_statement h fun _ => ⟨rfl, rfl, rfl⟩

theorem DmRequest.IsDelivery.unmoved {request : DmRequest} (hkind : request.IsDelivery)
    (h : request.Sends lib codec past sent) : Unmoved sent.before sent.after := by
  cases request with
  | create => exact hkind.elim
  | send env user conversationId req => exact SendSent.unmoved h
  | receive => exact hkind.elim
  | worker ticks => exact WorkerSent.unmoved h

/-- Every event has found what there was at the start. -/
theorem unmoved_run (hrun : Interleaving (DmRequest.Sends lib codec) s history t)
    (hkind : ∀ e ∈ history, e.request.IsDelivery) :
    Unmoved s t ∧ ∀ e ∈ history, Unmoved s e.before := by
  refine Interleaving.invariant (fun history t => Unmoved s t ∧ ∀ e ∈ history, Unmoved s e.before)
    ⟨⟨rfl, rfl, rfl⟩, by simp⟩ ?_ hrun hkind
  rintro history e - hkind - hgood ⟨hnow, hearlier⟩
  have hstep := (hkind e (by simp)).unmoved hgood
  refine ⟨⟨hstep.users.trans hnow.users,
    hstep.homeHubDesignations.trans hnow.homeHubDesignations,
    hstep.conversationMembers.trans hnow.conversationMembers⟩, fun e' he' => ?_⟩
  rcases List.mem_append.mp he' with he' | he'
  · exact hearlier e' he'
  · rwa [List.mem_singleton.mp he']

theorem Resolved.eq_deliveryUrls {m : ConvMember} {urls : List String}
    (h : Resolved codec m urls past) (hpast : ∀ earlier ∈ past, Unmoved s earlier.before) :
    urls = s.db.deliveryUrls codec m := by
  obtain ⟨read, hread, read', hread', rfl⟩ := h
  rw [(hpast read hread).users, (hpast read' hread').homeHubDesignations]
  rfl

theorem Queued.has {messageId hubUrl : String} (h : Queued messageId hubUrl past) :
    ∃ earlier ∈ past, earlier.after.db.dmOutbox.has (messageId, hubUrl) = true := by
  obtain ⟨earlier, hearlier, row, db, hkey, hstatement, hdb⟩ := h
  refine ⟨earlier, hearlier, ?_⟩
  rw [Sent.after, hstatement, executed_of_ok hdb, withDb_db, ← hkey]
  rcases insertOutboxOrIgnore_eq_ok hdb with ⟨rfl, hhas⟩ | ⟨-, hrows, -⟩
  · exact hhas
  · exact (Table.has_of_append hrows row.key).mpr (.inr rfl)

/-! ## Whole runs -/

/-- The job has stored the message. -/
def StoredBy (job : ℕ) (messageId : String) (history : DmHistory) : Prop :=
  ∃ e ∈ history, e.job = job ∧ e.before.db.dmMessages.has messageId = false ∧
    e.after.db.dmMessages.has messageId = true

/-- A request that has stored its message and returned has queued every
delivery. -/
theorem SendDone.queued {env : SendEnv} {user conversationId : String} {req : SendDmRequest}
    {job : ℕ} (h : SendDone lib codec env user conversationId req (sentBy job history))
    (hstored : StoredBy job env.messageId history)
    (hunmoved : ∀ e ∈ history, Unmoved s e.before) {m : ConvMember}
    (hm : m ∈ s.db.loadMembers conversationId) (hother : m.publicKey ≠ user) {hubUrl : String}
    (hurl : hubUrl ∈ s.db.deliveryUrls codec m) :
    ∃ e ∈ history, e.after.db.dmOutbox.has (env.messageId, hubUrl) = true := by
  have hpast : ∀ earlier ∈ sentBy job history, Unmoved s earlier.before := by
    intro earlier hearlier
    obtain ⟨e, he, -, rfl⟩ := mem_sentBy.mp hearlier
    exact hunmoved e he
  rcases h with hnothing | ⟨members, dm, ⟨⟨⟨first, hfirst, hmembers⟩, -⟩, -⟩, hdispatched⟩
  · obtain ⟨e, he, hjob, hbefore, hafter⟩ := hstored
    have haside := hnothing e.toSent (mem_sentBy.mpr ⟨e, he, hjob, rfl⟩)
    rw [haside.dmMessages, hbefore] at hafter
    cases hafter
  · have hsame : first.before.db.loadMembers conversationId = s.db.loadMembers conversationId := by
      rw [Db.loadMembers, Db.membersOf,
        (hpast first (List.mem_of_head? hfirst)).conversationMembers]
      rfl
    rw [← hsame, hmembers] at hm
    obtain ⟨urls, hresolved, hqueued⟩ := hdispatched m hm hother
    rw [← hresolved.eq_deliveryUrls hpast] at hurl
    obtain ⟨earlier, hearlier, hhas⟩ := (hqueued hubUrl hurl).has
    obtain ⟨e, he, -, rfl⟩ := mem_sentBy.mp hearlier
    exact ⟨e, he, hhas⟩

/-- **The outbox loses nothing.** However the requests that send messages and the
passes of the worker are interleaved, and whatever the remote hubs answer: every
delivery of a message that was stored and answered `201` has been accepted or
is in the outbox; a row leaves the outbox only after its delivery was accepted;
the worker attempts no row that was given up; and the counter of attempts stays
within the schedule, whose index it is until the row is given up. -/
theorem outbox_loses_nothing (lib : Crates) (codec : DmCodec) (moves : List (Move DmRequest))
    (s : AppState) (hkind : ∀ request ∈ moves.filterMap Move.request?, request.IsDelivery)
    (hworker : WorkerOnce moves) (hstart : OutboxOk s.db) :
    (∀ job env user conversationId req response,
      (dmServer lib codec moves s).request? job = some (.send env user conversationId req) →
      (dmServer lib codec moves s).answer? job = some (.ok (.message .created response)) →
      StoredBy job env.messageId (dmServer lib codec moves s).history →
      ∀ m ∈ s.db.loadMembers conversationId, m.publicKey ≠ user →
        ∀ hubUrl ∈ s.db.deliveryUrls codec m,
          AcceptedIn env.messageId hubUrl (dmServer lib codec moves s).history ∨
            (dmServer lib codec moves s).state.db.dmOutbox.has (env.messageId, hubUrl) = true) ∧
      (∀ pre e post, (dmServer lib codec moves s).history = pre ++ e :: post →
        ∀ messageId hubUrl, e.before.db.dmOutbox.has (messageId, hubUrl) = true →
          e.after.db.dmOutbox.has (messageId, hubUrl) = false →
          AcceptedIn messageId hubUrl pre) ∧
      (∀ e ∈ (dmServer lib codec moves s).history, ∀ attempt,
        e.after.dmAttempts = e.before.dmAttempts ++ [attempt] → attempt.retry = true →
        Unbounced (attempt.envelope.messageId, attempt.hubUrl) e.before.db) ∧
      ∀ row ∈ (dmServer lib codec moves s).state.db.dmOutbox.rows,
        row.attempts ≤ backoffSecs.length + 1 ∧
          (row.bouncedAt = none → (backoffIndex row.attempts : Int) = row.attempts ∧
            row.attempts ≤ backoffSecs.length) := by
  have hsound := dmServer_sound lib codec moves s
  have hrun := hsound.run
  have hrequest : ∀ e ∈ (dmServer lib codec moves s).history,
      (moves.filterMap Move.request?)[e.job]? = some e.request := by
    intro e he
    rw [← hsound.request?_eq he, dmServer, Server.request?_serve]
  have hkinds : ∀ e ∈ (dmServer lib codec moves s).history, e.request.IsDelivery :=
    fun e he => hkind e.request (List.mem_of_getElem? (hrequest e he))
  refine ⟨?_, ?_, ?_, ?_⟩
  · intro job env user conversationId req response hjob hanswer hstored m hm hother hubUrl hurl
    obtain ⟨e, he, hhas⟩ := SendDone.queued (hsound.returned hjob hanswer) hstored
      (unmoved_run hrun hkinds).2 hm hother hurl
    obtain ⟨pre, post, hsplit⟩ := List.append_of_mem he
    exact accepted_or_queued hrun hkinds hstart hsplit hhas
  · intro pre e post hsplit messageId hubUrl hbefore hafter
    exact accepted_of_removed hrun hkinds hstart hsplit hbefore hafter
  · intro e he attempt hattempt hretry
    apply unbounced_of_retry hrun hkinds _ he hattempt hretry
    intro first hfirst second hsecond ticks ticks' hticks hticks'
    apply hworker first.job second.job ticks ticks'
    · rw [hrequest first hfirst, hticks]
    · rw [hrequest second hsecond, hticks']
  · intro row hrow
    have hok := (outboxOk_run hrun hkinds hstart).1
    refine ⟨hok.attempts row hrow, fun hpending => ?_⟩
    have hle := hok.pending row hrow hpending
    exact ⟨backoffIndex_eq (hok.nonneg row hrow) hle, hle⟩

/-- The conversation of the laptop with a phone on another hub. -/
def remoteDb : Db :=
  { chatDb with
    conversationMembers := ⟨[⟨"c1", laptopKey, 5, none⟩,
      ⟨"c1", phoneKey, 5, some "https://a.example"⟩], by decide⟩ }

def remoteHub : AppState where
  db := remoteDb

/-- The laptop writes while the worker makes a pass, and the other hub cannot be
reached. -/
def retryMoves : List (Move DmRequest) :=
  .start (.send chatEnv laptopKey "c1" greeting) :: .start (.worker [⟨10, fun _ => deadHub⟩]) ::
    List.replicate 8 (.exec 0) ++ List.replicate 8 (.exec 1) ++ List.replicate 8 (.exec 0)

theorem retryMoves_isDelivery :
    ∀ request ∈ retryMoves.filterMap Move.request?, request.IsDelivery := by
  intro request hrequest
  have heq : retryMoves.filterMap Move.request? = [.send chatEnv laptopKey "c1" greeting,
      .worker [⟨10, fun _ => deadHub⟩]] := rfl
  rw [heq] at hrequest
  rcases List.mem_cons.mp hrequest with rfl | hrequest
  · trivial
  · rw [List.mem_singleton.mp hrequest]
    trivial

theorem retryMoves_workerOnce : WorkerOnce retryMoves := by
  have honly : ∀ (i : ℕ) (ticks : List TickEnv),
      (retryMoves.filterMap Move.request?)[i]? = some (.worker ticks) → i = 1 := by
    intro i ticks hi
    match i with
    | 0 => cases hi
    | 1 => rfl
    | i + 2 => cases hi
  intro i j ticks ticks' hi hj
  rw [honly i ticks hi, honly j ticks' hj]

theorem remoteHub_outboxOk : OutboxOk remoteHub.db :=
  ⟨fun _ h => absurd h List.not_mem_nil, fun _ h => absurd h List.not_mem_nil,
    fun _ h => absurd h List.not_mem_nil, fun _ h => absurd h List.not_mem_nil⟩

theorem outbox_loses_nothing_retryMoves :
    (∀ request ∈ retryMoves.filterMap Move.request?, request.IsDelivery) ∧
      WorkerOnce retryMoves ∧ OutboxOk remoteHub.db ∧
      (AcceptedIn chatEnv.messageId "https://a.example"
          (dmServer (.ofRecorded []) chatCodec retryMoves remoteHub).history ∨
        (dmServer (.ofRecorded []) chatCodec retryMoves remoteHub).state.db.dmOutbox.has
          (chatEnv.messageId, "https://a.example") = true) := by
  have hrequest : (dmServer (.ofRecorded []) chatCodec retryMoves remoteHub).request? 0 =
      some (.send chatEnv laptopKey "c1" greeting) := by
    rw [dmServer, Server.request?_serve]
    rfl
  have hanswer : (dmServer (.ofRecorded []) chatCodec retryMoves remoteHub).answer? 0 =
      some (.ok (.message .created
        (greeting.response chatEnv laptopKey "c1" (some "Laptop") false))) := by
    decide +kernel
  have hstored : StoredBy 0 chatEnv.messageId
      (dmServer (.ofRecorded []) chatCodec retryMoves remoteHub).history := by
    unfold StoredBy
    decide +kernel
  refine ⟨retryMoves_isDelivery, retryMoves_workerOnce, remoteHub_outboxOk, ?_⟩
  exact (outbox_loses_nothing (.ofRecorded []) chatCodec retryMoves remoteHub
    retryMoves_isDelivery retryMoves_workerOnce remoteHub_outboxOk).1 0 chatEnv laptopKey "c1"
    greeting _ hrequest hanswer hstored ⟨phoneKey, some "https://a.example"⟩ (by decide +kernel)
    (by decide) "https://a.example" (by decide +kernel)

end Voxply.Hub
