/-
# Deliveries that arrive twice

A remote hub may deliver a message any number of times, at the same time and in
any order, and the requests of other members run in between.  The message is
looked up, the conversation is created, the row is inserted and the members are
told by separate statements.  What makes this come out right is the primary key:
of all the statements that insert a row under one identifier, one succeeds, and
only the request that has sent that one goes on to announce the message.
-/

import Voxply.Hub.DmRequests

namespace Voxply.Hub

open Voxply.Math Voxply.Identity

variable {lib : Crates} {codec : DmCodec} {s t : AppState} {history : DmHistory}
  {past : List (Sent AppState)} {e : Event DmRequest AppState}

/-! ## Effects -/

/-- What a statement does to messages and broadcasts. -/
inductive MessageEffect (past : List (Sent AppState)) (sent : Sent AppState) : Prop
  | other (hmessages : sent.after.db.dmMessages = sent.before.db.dmMessages)
      (hsilent : Silent sent)
  | store (row : DmMessageRow) (h : sent.statement = executed (insertDmMessage row))
  | announce (row : DmMessageRow) (event : DmEvent) (hstored : ∃ store ∈ past, Stores row store)
      (hsilent : ∀ earlier ∈ past, Silent earlier)
      (h : sent.statement = fun s => s.announce row.id event)

section Effects

variable {sent : Sent AppState}

theorem DmAside.messageEffect (h : DmAside sent.before sent.after) : MessageEffect past sent :=
  .other h.dmMessages h.silent

/-- A write to other tables. -/
theorem messageEffect_written {f : Db → Db} (h : sent.statement = written f)
    (hf : ∀ db, (f db).dmMessages = db.dmMessages) : MessageEffect past sent := by
  apply MessageEffect.other
  · rw [Sent.after, h]
    exact hf sent.before.db
  · rw [Silent, Sent.after, h]
    rfl

theorem messageEffect_executed {f : Db → Except SqlError Db} (h : sent.statement = executed f)
    (hf : ∀ db db', f db = .ok db' → db'.dmMessages = db.dmMessages) :
    MessageEffect past sent := by
  apply MessageEffect.other
  · exact kept_executed Db.dmMessages h fun db' hdb => hf sent.before.db db' hdb
  · rw [Silent, Sent.after, h]
    exact silent_executed sent.before

theorem messageEffect_exec {f : AppState → AppState} (h : sent.statement = f)
    (hf : ∀ s, (f s).db = s.db ∧ (f s).dmEvents = s.dmEvents) : MessageEffect past sent := by
  apply MessageEffect.other
  · rw [Sent.after, h, (hf sent.before).1]
  · rw [Silent, Sent.after, h, (hf sent.before).2]

theorem dmMessages_insertConversation {row : ConversationRow} (db db' : Db)
    (h : insertConversation row db = .ok db') : db'.dmMessages = db.dmMessages := by
  obtain ⟨-, -, hframe⟩ := insertConversation_eq_ok h
  rw [hframe]

theorem dmMessages_insertMember {row : ConversationMemberRow} (db db' : Db)
    (h : insertMember row db = .ok db') : db'.dmMessages = db.dmMessages := by
  obtain ⟨-, -, hframe⟩ := insertMember_eq_ok h
  rw [hframe]

theorem dmMessages_insertMemberOrIgnore {row : ConversationMemberRow} (db db' : Db)
    (h : insertMemberOrIgnore row db = .ok db') : db'.dmMessages = db.dmMessages := by
  rcases insertMemberOrIgnore_eq_ok h with rfl | h
  · rfl
  · exact dmMessages_insertMember db db' h

theorem dmMessages_insertOutboxOrIgnore {row : DmOutboxRow} (db db' : Db)
    (h : insertOutboxOrIgnore row db = .ok db') : db'.dmMessages = db.dmMessages := by
  rcases insertOutboxOrIgnore_eq_ok h with ⟨rfl, -⟩ | ⟨-, -, hframe⟩
  · rfl
  · rw [hframe]

theorem CreateSent.messageEffect {newId : String} {now : Int} {user : String}
    {req : CreateConversationRequest} (h : CreateSent newId now user req past sent) :
    MessageEffect past sent := by
  cases h with
  | aside h => exact h.messageEffect
  | stub key h => exact messageEffect_written h fun _ => rfl
  | conversation _ h => exact messageEffect_executed h dmMessages_insertConversation
  | member key hubUrl _ _ _ h => exact messageEffect_executed h dmMessages_insertMember

theorem SendSent.messageEffect {env : SendEnv} {user conversationId : String}
    {req : SendDmRequest} (h : SendSent lib codec env user conversationId req past sent) :
    MessageEffect past sent := by
  cases h with
  | aside h => exact h.messageEffect
  | store members dm _ h => exact .store dm.row h
  | announce row event hid hstored hsilent h =>
      exact .announce row event hstored hsilent (hid ▸ h)
  | queue row _ _ _ h => exact messageEffect_executed h dmMessages_insertOutboxOrIgnore
  | attempt members dm hubUrl _ h => exact messageEffect_exec h fun _ => ⟨rfl, rfl⟩
  | accepted hubUrl h => exact messageEffect_exec h fun _ => ⟨rfl, rfl⟩
  | dequeue hubUrl _ h => exact messageEffect_written h fun _ => rfl
  | postpone hubUrl error h => exact messageEffect_written h fun _ => rfl

theorem ReceiveSent.messageEffect {req : FederatedDmRequest} (h : ReceiveSent req past sent) :
    MessageEffect past sent := by
  cases h with
  | aside h => exact h.messageEffect
  | stub key h => exact messageEffect_written h fun _ => rfl
  | conversation h => exact messageEffect_executed h dmMessages_insertConversation
  | member key h => exact messageEffect_executed h dmMessages_insertMemberOrIgnore
  | store row _ h => exact .store row h
  | announce row event hid hstored hsilent h =>
      exact .announce row event hstored hsilent (hid ▸ h)

theorem RetrySent.messageEffect {row : DmOutboxRow} (h : RetrySent row past sent) :
    MessageEffect past sent := by
  cases h with
  | aside h => exact h.messageEffect
  | attempt envelope _ _ h => exact messageEffect_exec h fun _ => ⟨rfl, rfl⟩
  | accepted h => exact messageEffect_exec h fun _ => ⟨rfl, rfl⟩
  | dequeue _ h => exact messageEffect_written h fun _ => rfl
  | orphan _ h => exact messageEffect_written h fun _ => rfl
  | reschedule nextAt error _ _ h => exact messageEffect_written h fun _ => rfl
  | bounce now error _ _ h => exact messageEffect_written h fun _ => rfl

theorem DmRequest.Sends.messageEffect {request : DmRequest}
    (h : request.Sends lib codec past sent) : MessageEffect past sent := by
  cases request with
  | create newId now user req => exact CreateSent.messageEffect h
  | send env user conversationId req => exact SendSent.messageEffect h
  | receive now req => exact ReceiveSent.messageEffect h
  | worker ticks =>
      cases h with
      | aside h => exact h.messageEffect
      | retry row h => exact h.messageEffect

theorem mem_executed_insertDmMessage {row old : DmMessageRow} (s : AppState)
    (h : old ∈ s.db.dmMessages.rows) :
    old ∈ (executed (insertDmMessage row) s).db.dmMessages.rows := by
  rcases executed_cases (insertDmMessage row) s with heq | ⟨db, hdb, heq⟩
  · rwa [heq]
  · obtain ⟨-, -, hrows, -⟩ := insertDmMessage_eq_ok hdb
    rw [heq, withDb_db, hrows]
    exact List.mem_append_left _ h

/-- A stored message stays as it is. -/
theorem MessageEffect.keeps (h : MessageEffect past sent) {row : DmMessageRow}
    (hrow : row ∈ sent.before.db.dmMessages.rows) : row ∈ sent.after.db.dmMessages.rows := by
  cases h with
  | other hmessages _ => rwa [hmessages]
  | store new h =>
      rw [Sent.after, h]
      exact mem_executed_insertDmMessage sent.before hrow
  | announce new event _ _ h =>
      rw [Sent.after, h]
      exact hrow

theorem Stores.mem {row : DmMessageRow} (h : Stores row sent) :
    row ∈ sent.after.db.dmMessages.rows := by
  obtain ⟨hstatement, db, hdb⟩ := h
  obtain ⟨-, -, hrows, -⟩ := insertDmMessage_eq_ok hdb
  rw [Sent.after, hstatement, executed_of_ok hdb, withDb_db, hrows]
  exact List.mem_concat_self

theorem Stores.free {row : DmMessageRow} (h : Stores row sent) :
    ∀ old ∈ sent.before.db.dmMessages.rows, old.id ≠ row.id := by
  obtain ⟨-, db, hdb⟩ := h
  exact (insertDmMessage_eq_ok hdb).2.1

end Effects

/-! ## One insert, one broadcast -/

/-- Somebody has announced something, having stored the message. -/
def AnnouncedBy (messageId : String) (history : DmHistory) : Prop :=
  ∃ e ∈ history, ¬ Silent e.toSent ∧
    ∃ row, row.id = messageId ∧ ∃ store ∈ sentBy e.job history, Stores row store

/-- The broadcasts since the start: each is about another message, and made by a
job that has stored it. -/
def Announced (s : AppState) (history : DmHistory) (t : AppState) : Prop :=
  ∃ announced, t.dmEvents = s.dmEvents ++ announced ∧ (announced.map Prod.fst).Nodup ∧
    ∀ messageId ∈ announced.map Prod.fst, AnnouncedBy messageId history

theorem AnnouncedBy.snoc {messageId : String} (h : AnnouncedBy messageId history)
    (e : Event DmRequest AppState) : AnnouncedBy messageId (history ++ [e]) := by
  obtain ⟨e', he', hloud, row, hid, store, hstore, hstores⟩ := h
  refine ⟨e', List.mem_append_left _ he', hloud, row, hid, store, ?_, hstores⟩
  rw [sentBy_append]
  exact List.mem_append_left _ hstore

section Histories

variable (hrun : Interleaving (DmRequest.Sends lib codec) s history t)

include hrun

/-- A message that has been stored is there now, unchanged. -/
theorem stored_now (he : e ∈ history) {row : DmMessageRow}
    (hrow : row ∈ e.after.db.dmMessages.rows) : row ∈ t.db.dmMessages.rows := by
  apply hrun.kept (fun u => row ∈ u.db.dmMessages.rows) _ he hrow
  intro later hlater hbefore
  obtain ⟨past, hgood⟩ := hrun.good_of_mem hlater
  exact hgood.messageEffect.keeps hbefore

/-- What has been read is there now. -/
theorem read_now (he : e ∈ history) {row : DmMessageRow}
    (hrow : row ∈ e.before.db.dmMessages.rows) : row ∈ t.db.dmMessages.rows := by
  obtain ⟨past, hgood⟩ := hrun.good_of_mem he
  exact stored_now hrun he (hgood.messageEffect.keeps hrow)

/-- Of the statements that insert a row under one identifier, one succeeds. -/
theorem stores_unique {first second : Event DmRequest AppState} (hfirst : first ∈ history)
    (hsecond : second ∈ history) {row row' : DmMessageRow} (hstores : Stores row first.toSent)
    (hstores' : Stores row' second.toSent) (hid : row.id = row'.id) : first = second := by
  by_contra hne
  obtain ⟨pre, post, hsplit⟩ := List.append_of_mem hfirst
  obtain ⟨pre', post', hsplit'⟩ := List.append_of_mem hsecond
  rcases mem_or_mem_of_split hsplit hsplit' hne with hmem | hmem
  · have hrow := stored_now (hrun.split hsplit').1 hmem hstores.mem
    exact hstores'.free row hrow hid
  · have hrow := stored_now (hrun.split hsplit).1 hmem hstores'.mem
    exact hstores.free row' hrow hid.symm

/-- The broadcasts of a run: no message is announced twice, and whoever announces
one has stored it. -/
theorem announced_of_run : Announced s history t := by
  have htrue : ∀ e ∈ history, (fun _ : Event DmRequest AppState => True) e := fun _ _ => trivial
  refine Interleaving.invariant (Announced s) ⟨[], by simp, by simp, by simp⟩ ?_ hrun htrue
  rintro history e hrun - - hgood ⟨announced, hlog, hnodup, horigin⟩
  cases hgood.messageEffect with
  | other _ hsilent => exact ⟨announced, hsilent.trans hlog, hnodup, fun m hm =>
      (horigin m hm).snoc e⟩
  | store row h =>
      have hsilent : Silent e.toSent := by
        rw [Silent, Sent.after, h]
        exact silent_executed e.before
      exact ⟨announced, hsilent.trans hlog, hnodup, fun m hm => (horigin m hm).snoc e⟩
  | announce row event hstored hsilent h =>
      obtain ⟨store, hstore, hstores⟩ := hstored
      have hafter : e.after.dmEvents = s.dmEvents ++ (announced ++ [(row.id, event)]) := by
        rw [← List.append_assoc, ← hlog, Sent.after, h]
        rfl
      have hloud : ¬ Silent e.toSent := by
        intro hsame
        rw [Silent, hafter, hlog, ← List.append_assoc] at hsame
        simp at hsame
      -- The job that announced the message before has stored it, so it is this job, which has
      -- been silent.
      have hfresh : row.id ∉ announced.map Prod.fst := by
        intro hmem
        obtain ⟨e', he', hloud', row', hid, store', hstore', hstores'⟩ := horigin row.id hmem
        obtain ⟨f, hf, hfjob, rfl⟩ := mem_sentBy.mp hstore
        obtain ⟨f', hf', hfjob', rfl⟩ := mem_sentBy.mp hstore'
        have heq := stores_unique hrun hf hf' hstores hstores' hid.symm
        apply hloud'
        apply hsilent
        rw [mem_sentBy]
        exact ⟨e', he', by rw [← hfjob', ← heq, hfjob], rfl⟩
      refine ⟨announced ++ [(row.id, event)], hafter, ?_, ?_⟩
      · rw [List.map_append, List.nodup_append]
        refine ⟨hnodup, List.nodup_singleton _, ?_⟩
        rintro messageId hmessage _ hlast rfl
        rw [List.mem_singleton.mp hlast] at hmessage
        exact hfresh hmessage
      · intro messageId hmessage
        rw [List.map_append, List.mem_append] at hmessage
        rcases hmessage with hmessage | hmessage
        · exact (horigin messageId hmessage).snoc e
        · rw [List.mem_singleton.mp hmessage]
          refine ⟨e, List.mem_concat_self, hloud, row, rfl, store, ?_, hstores⟩
          rw [sentBy_append]
          exact List.mem_append_left _ hstore

end Histories

/-! ## Whole runs -/

/-- A stored message is there whatever follows. -/
theorem stored_later {moves : List (Move DmRequest)} {row : DmMessageRow}
    (h : row ∈ (dmServer lib codec moves s).state.db.dmMessages.rows)
    (more : List (Move DmRequest)) :
    row ∈ (dmServer lib codec (moves ++ more) s).state.db.dmMessages.rows := by
  have hkept := (dmServer_sound lib codec moves s).kept_runAll
    (fun u => row ∈ u.db.dmMessages.rows) (DmRequest.handler_follows lib codec)
    (fun _ _ _ hgood => hgood.messageEffect.keeps) h more
  rwa [dmServer, serve, runAll_append]

/-- **Deliveries are idempotent.** However requests are interleaved: a message
is stored once and stays as it is, it is announced once at most, and a delivery
that is answered `200` finds it stored or was suppressed by a block. -/
theorem receive_idempotent (lib : Crates) (codec : DmCodec) (moves : List (Move DmRequest))
    (s : AppState) (messageId : String) :
    ((dmServer lib codec moves s).state.db.dmMessages.rows.filter (·.id = messageId)).length ≤ 1 ∧
      (∃ announced, (dmServer lib codec moves s).state.dmEvents = s.dmEvents ++ announced ∧
        (announced.filter (·.1 = messageId)).length ≤ 1) ∧
      (∀ row more, (dmServer lib codec moves s).state.db.dmMessages.find? messageId = some row →
        (dmServer lib codec (moves ++ more) s).state.db.dmMessages.find? messageId = some row) ∧
      ∀ job now req, req.messageId = messageId →
        (dmServer lib codec moves s).request? job = some (.receive now req) →
        (dmServer lib codec moves s).answer? job = some (.ok (.received .ok)) →
        (dmServer lib codec moves s).state.db.dmMessages.has messageId = true ∨
          ∃ e ∈ (dmServer lib codec moves s).history, e.job = job ∧
            ∃ member ∈ req.members, member ≠ req.sender ∧
              e.before.db.isDmBlocked member req.sender = true := by
  have hsound := dmServer_sound lib codec moves s
  refine ⟨length_filter_le_one (dmServer lib codec moves s).state.db.dmMessages.nodup messageId,
    ?_, ?_, ?_⟩
  · obtain ⟨announced, hlog, hnodup, -⟩ := announced_of_run hsound.run
    exact ⟨announced, hlog, length_filter_le_one hnodup messageId⟩
  · intro row more hrow
    obtain ⟨hmem, hid⟩ := Table.find?_eq_some_iff.mp hrow
    exact Table.find?_eq_some_iff.mpr ⟨stored_later hmem more, hid⟩
  · rintro job now req rfl hrequest hanswer
    rcases hsound.returned hrequest hanswer with ⟨earlier, hearlier, hhas⟩ |
      ⟨earlier, hearlier, hblocked⟩ | ⟨row, hid, store, hstore, hstores⟩
    · obtain ⟨e, he, -, rfl⟩ := mem_sentBy.mp hearlier
      obtain ⟨row, hrow, hid⟩ := Table.has_iff.mp hhas
      exact .inl (Table.has_iff.mpr ⟨row, read_now hsound.run he hrow, hid⟩)
    · obtain ⟨e, he, hjob, rfl⟩ := mem_sentBy.mp hearlier
      exact .inr ⟨e, he, hjob, hblocked⟩
    · obtain ⟨e, he, -, rfl⟩ := mem_sentBy.mp hstore
      exact .inl (Table.has_iff.mpr ⟨row, stored_now hsound.run he hstores.mem, hid⟩)

end Voxply.Hub
