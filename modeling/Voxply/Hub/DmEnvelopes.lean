/-
# Retries carry the message of the first attempt

`send_dm` builds a message from the request and from what it has read; the retry
worker rebuilds it from the tables.  The two agree in everything that the
receiving hub stores.  The members are those of the conversation at the time:
the worker names the same ones as the first attempt unless the conversation was
still being filled when the message was sent.
-/

import Voxply.Hub.DmIdempotence

namespace Voxply.Hub

open Voxply.Math Voxply.Identity

variable {lib : Crates} {codec : DmCodec} {s t : AppState} {history : DmHistory}
  {past : List (Sent AppState)} {e : Event DmRequest AppState}

/-! ## Conversations and members only grow -/

/-- No conversation and no member is lost. -/
structure DmGrows (db db' : Db) : Prop where
  conversations : ∀ row ∈ db.conversations.rows, row ∈ db'.conversations.rows
  conversationMembers : ∀ row ∈ db.conversationMembers.rows, row ∈ db'.conversationMembers.rows

theorem DmGrows.refl (db : Db) : DmGrows db db :=
  ⟨fun _ h => h, fun _ h => h⟩

theorem DmGrows.trans {db db' db'' : Db} (h : DmGrows db db') (h' : DmGrows db' db'') :
    DmGrows db db'' :=
  ⟨fun row hrow => h'.conversations row (h.conversations row hrow),
    fun row hrow => h'.conversationMembers row (h.conversationMembers row hrow)⟩

section Grows

variable {sent : Sent AppState} {db db' : Db}

theorem dmGrows_of_eq (hconversations : sent.after.db.conversations = sent.before.db.conversations)
    (hmembers : sent.after.db.conversationMembers = sent.before.db.conversationMembers) :
    DmGrows sent.before.db sent.after.db :=
  ⟨fun _ h => hconversations ▸ h, fun _ h => hmembers ▸ h⟩

theorem DmAside.grows (h : DmAside sent.before sent.after) : DmGrows sent.before.db sent.after.db :=
  dmGrows_of_eq h.conversations h.conversationMembers

/-- A statement on other tables. -/
theorem dmGrows_statement {f : AppState → AppState} (h : sent.statement = f)
    (hf : ∀ s, (f s).db.conversations = s.db.conversations ∧
      (f s).db.conversationMembers = s.db.conversationMembers) :
    DmGrows sent.before.db sent.after.db := by
  apply dmGrows_of_eq
  · rw [Sent.after, h, (hf sent.before).1]
  · rw [Sent.after, h, (hf sent.before).2]

theorem dmGrows_executed {f : Db → Except SqlError Db} (h : sent.statement = executed f)
    (hf : ∀ {db db'}, f db = .ok db' → DmGrows db db') :
    DmGrows sent.before.db sent.after.db := by
  rw [Sent.after, h]
  rcases executed_cases f sent.before with heq | ⟨db, hdb, heq⟩
  · rw [heq]
    exact DmGrows.refl _
  · rw [heq]
    exact hf hdb

theorem grows_insertConversation {row : ConversationRow}
    (h : insertConversation row db = .ok db') : DmGrows db db' := by
  obtain ⟨-, hrows, hframe⟩ := insertConversation_eq_ok h
  constructor
  · intro old hold
    rw [hrows]
    exact List.mem_append_left _ hold
  · intro old hold
    rwa [hframe]

theorem grows_insertMember {row : ConversationMemberRow}
    (h : insertMember row db = .ok db') : DmGrows db db' := by
  obtain ⟨-, hrows, hframe⟩ := insertMember_eq_ok h
  constructor
  · intro old hold
    rwa [hframe]
  · intro old hold
    rw [hrows]
    exact List.mem_append_left _ hold

theorem grows_insertMemberOrIgnore {row : ConversationMemberRow}
    (h : insertMemberOrIgnore row db = .ok db') : DmGrows db db' := by
  rcases insertMemberOrIgnore_eq_ok h with rfl | h
  · exact DmGrows.refl _
  · exact grows_insertMember h

theorem grows_insertDmMessage {row : DmMessageRow}
    (h : insertDmMessage row db = .ok db') : DmGrows db db' := by
  obtain ⟨-, -, -, hframe⟩ := insertDmMessage_eq_ok h
  rw [hframe]
  exact ⟨fun _ h => h, fun _ h => h⟩

theorem grows_insertOutboxOrIgnore {row : DmOutboxRow}
    (h : insertOutboxOrIgnore row db = .ok db') : DmGrows db db' := by
  rcases insertOutboxOrIgnore_eq_ok h with ⟨rfl, -⟩ | ⟨-, -, hframe⟩
  · exact DmGrows.refl _
  · rw [hframe]
    exact ⟨fun _ h => h, fun _ h => h⟩

theorem CreateSent.grows {newId : String} {now : Int} {user : String}
    {req : CreateConversationRequest} (h : CreateSent newId now user req past sent) :
    DmGrows sent.before.db sent.after.db := by
  cases h with
  | aside h => exact h.grows
  | stub key h => exact dmGrows_statement h fun _ => ⟨rfl, rfl⟩
  | conversation _ h => exact dmGrows_executed h grows_insertConversation
  | member key hubUrl _ _ _ h => exact dmGrows_executed h grows_insertMember

theorem SendSent.grows {env : SendEnv} {user conversationId : String} {req : SendDmRequest}
    (h : SendSent lib codec env user conversationId req past sent) :
    DmGrows sent.before.db sent.after.db := by
  cases h with
  | aside h => exact h.grows
  | store members dm _ h => exact dmGrows_executed h grows_insertDmMessage
  | announce row event _ _ _ h => exact dmGrows_statement h fun _ => ⟨rfl, rfl⟩
  | queue row _ _ _ h => exact dmGrows_executed h grows_insertOutboxOrIgnore
  | attempt members dm hubUrl _ h => exact dmGrows_statement h fun _ => ⟨rfl, rfl⟩
  | accepted hubUrl h => exact dmGrows_statement h fun _ => ⟨rfl, rfl⟩
  | dequeue hubUrl _ h => exact dmGrows_statement h fun _ => ⟨rfl, rfl⟩
  | postpone hubUrl error h => exact dmGrows_statement h fun _ => ⟨rfl, rfl⟩

theorem ReceiveSent.grows {req : FederatedDmRequest} (h : ReceiveSent req past sent) :
    DmGrows sent.before.db sent.after.db := by
  cases h with
  | aside h => exact h.grows
  | stub key h => exact dmGrows_statement h fun _ => ⟨rfl, rfl⟩
  | conversation h => exact dmGrows_executed h grows_insertConversation
  | member key h => exact dmGrows_executed h grows_insertMemberOrIgnore
  | store row _ h => exact dmGrows_executed h grows_insertDmMessage
  | announce row event _ _ _ h => exact dmGrows_statement h fun _ => ⟨rfl, rfl⟩

theorem RetrySent.grows {row : DmOutboxRow} (h : RetrySent row past sent) :
    DmGrows sent.before.db sent.after.db := by
  cases h with
  | aside h => exact h.grows
  | attempt envelope _ _ h => exact dmGrows_statement h fun _ => ⟨rfl, rfl⟩
  | accepted h => exact dmGrows_statement h fun _ => ⟨rfl, rfl⟩
  | dequeue _ h => exact dmGrows_statement h fun _ => ⟨rfl, rfl⟩
  | orphan _ h => exact dmGrows_statement h fun _ => ⟨rfl, rfl⟩
  | reschedule nextAt error _ _ h => exact dmGrows_statement h fun _ => ⟨rfl, rfl⟩
  | bounce now error _ _ h => exact dmGrows_statement h fun _ => ⟨rfl, rfl⟩

theorem DmRequest.Sends.grows {request : DmRequest} (h : request.Sends lib codec past sent) :
    DmGrows sent.before.db sent.after.db := by
  cases request with
  | create newId now user req => exact CreateSent.grows h
  | send env user conversationId req => exact SendSent.grows h
  | receive now req => exact ReceiveSent.grows h
  | worker ticks =>
      cases h with
      | aside h => exact h.grows
      | retry row h => exact h.grows

end Grows

section Histories

variable (hrun : Interleaving (DmRequest.Sends lib codec) s history t)

include hrun

/-- What was there at the start is there now. -/
theorem grows_start : DmGrows s.db t.db := by
  have htrue : ∀ e ∈ history, (fun _ : Event DmRequest AppState => True) e := fun _ _ => trivial
  refine Interleaving.invariant (fun _ u => DmGrows s.db u.db) (DmGrows.refl _) ?_ hrun htrue
  intro history e _ _ _ hgood hbefore
  exact hbefore.trans hgood.grows

/-- What an event has left is there now. -/
theorem grows_since (he : e ∈ history) : DmGrows e.after.db t.db := by
  apply hrun.kept (fun u => DmGrows e.after.db u.db) _ he (DmGrows.refl _)
  intro later hlater hbefore
  obtain ⟨past, hgood⟩ := hrun.good_of_mem hlater
  exact hbefore.trans hgood.grows

/-- What an event has found is there now. -/
theorem grows_now (he : e ∈ history) : DmGrows e.before.db t.db := by
  obtain ⟨past, hgood⟩ := hrun.good_of_mem he
  exact hgood.grows.trans (grows_since hrun he)

end Histories

theorem DmGrows.convType? {db db' : Db} (h : DmGrows db db') {conversationId convType : String}
    (hconv : db.convType? conversationId = some convType) :
    db'.convType? conversationId = some convType := by
  obtain ⟨row, hfind, rfl⟩ := Option.map_eq_some_iff.mp hconv
  obtain ⟨hrow, hid⟩ := Table.find?_eq_some_iff.mp hfind
  have hnow := Table.find?_eq_some_iff.mpr ⟨h.conversations row hrow, hid⟩
  rw [Db.convType?, hnow]
  rfl

theorem DmGrows.memberKeys {db db' : Db} (h : DmGrows db db') {conversationId key : String}
    (hkey : key ∈ memberKeys (db.loadMembers conversationId)) :
    key ∈ memberKeys (db'.loadMembers conversationId) := by
  rw [mem_memberKeys, Table.has_iff] at hkey ⊢
  obtain ⟨row, hrow, heq⟩ := hkey
  exact ⟨row, h.conversationMembers row hrow, heq⟩

/-! ## Rebuilding -/

/-- The message that stands in the store, with the members that the conversation
has. -/
theorem run_loadEnvelope {messageId convType : String} {row : DmMessageRow}
    (hrow : t.db.dmMessages.find? messageId = some row)
    (hconv : t.db.convType? row.conversationId = some convType) :
    (loadEnvelope codec messageId).run t = (.ok (some (row.federated codec convType
      (memberKeys (t.db.loadMembers row.conversationId)))), t) := by
  rw [loadEnvelope, Prog.run_bind_of_ok (run_fetch _ t), hrow]
  dsimp only
  rw [Prog.run_bind_of_ok (run_fetch _ t), hconv]
  dsimp only
  rw [Prog.run_bind_of_ok (run_fetch _ t), Prog.run_pure, memberKeys, Db.loadMembers, List.map_map]
  rfl

/-- The row of a message that was stored stands for the message that is sent. -/
theorem federated_of_stored (hcodec : codec.RoundTrips) {env : SendEnv}
    {user conversationId : String} {req : SendDmRequest} {convType : Option String}
    {dm : ComposedDm} {db db' : Db} {members : List String}
    (hcompose : req.compose lib codec env user conversationId convType = .ok dm)
    (hinsert : insertDmMessage dm.row db = .ok db') :
    dm.row.federated codec dm.convType members =
      req.envelope env user conversationId dm.convType members := by
  obtain ⟨-, hvalid, column, hcolumn, hrow⟩ := compose_eq_ok hcompose
  obtain ⟨-, ⟨hkind, hplain, content, hcontent⟩ | ⟨hkind, -⟩⟩ := validate_eq_ok hvalid
  · rw [hkind] at hrow
    have hrow := Except.ok.inj hrow
    rw [← hrow]
    simp only [DmMessageRow.federated, SendDmRequest.envelope, DmMessageRow.envelope, hcontent,
      hplain, parseDmAttachments_of_column hcodec hcolumn, Option.getD_some,
      Bool.false_eq_true, if_false]
  · rw [hkind] at hrow
    rw [insertDmMessage_encrypted hrow db] at hinsert
    cases hinsert

/-- No member has joined the conversation since the job sent its first
statement. -/
def NoneJoined (conversationId : String) (job : ℕ) (history : DmHistory) : Prop :=
  ∀ pre first post, history = pre ++ first :: post → first.job = job → sentBy job pre = [] →
    ∀ later ∈ first :: post, later.after.db.membersOf conversationId =
      later.before.db.membersOf conversationId

theorem dmAttempts_executed (f : Db → Except SqlError Db) (s : AppState) :
    (executed f s).dmAttempts = s.dmAttempts := by
  rcases executed_cases f s with heq | ⟨db, -, heq⟩
  · rw [heq]
  · rw [heq]
    rfl

/-- The only statement of `send_dm` that notes an attempt. -/
theorem SendSent.attempted {env : SendEnv} {user conversationId : String} {req : SendDmRequest}
    {sent : Sent AppState} {attempt : DmAttempt}
    (h : SendSent lib codec env user conversationId req past sent)
    (hattempt : sent.after.dmAttempts = sent.before.dmAttempts ++ [attempt]) :
    ∃ members dm, Published lib codec env user conversationId req members dm past ∧
      attempt.envelope = req.envelope env user conversationId dm.convType (memberKeys members) ∧
      attempt.retry = false := by
  have hnone (hsame : sent.after.dmAttempts = sent.before.dmAttempts) : False := by
    rw [hsame] at hattempt
    simp at hattempt
  have hexecuted {f : Db → Except SqlError Db} (hf : sent.statement = executed f) : False :=
    hnone (by rw [Sent.after, hf, dmAttempts_executed])
  cases h with
  | aside h => exact (hnone h.dmAttempts).elim
  | store members dm _ h => exact (hexecuted h).elim
  | announce row event _ _ _ h => exact (hnone (by rw [Sent.after, h]; rfl)).elim
  | queue row _ _ _ h => exact (hexecuted h).elim
  | attempt members dm hubUrl hpublished h =>
      rw [Sent.after, h] at hattempt
      have hlast := List.append_cancel_left hattempt
      rw [← List.singleton_inj.mp hlast]
      exact ⟨members, dm, hpublished, rfl, rfl⟩
  | accepted hubUrl h => exact (hnone (by rw [Sent.after, h]; rfl)).elim
  | dequeue hubUrl _ h => exact (hnone (by rw [Sent.after, h]; rfl)).elim
  | postpone hubUrl error h => exact (hnone (by rw [Sent.after, h]; rfl)).elim

/-- **A retry carries the message of the first attempt.** At any point after an
attempt by `send_dm`, `load_envelope` rebuilds the message: the receiving hub
would store the same row, nothing differs but the members, none of them is
missing, and they are the same if nobody has joined the conversation since
`send_dm` started. -/
theorem loadEnvelope_of_attempted (hcodec : codec.RoundTrips) (moves : List (Move DmRequest))
    (s : AppState) (he : e ∈ (dmServer lib codec moves s).history) {env : SendEnv}
    {user conversationId : String} {req : SendDmRequest}
    (hrequest : e.request = .send env user conversationId req) {attempt : DmAttempt}
    (hattempt : e.after.dmAttempts = e.before.dmAttempts ++ [attempt]) :
    ∃ rebuilt, (loadEnvelope codec attempt.envelope.messageId).run
          (dmServer lib codec moves s).state =
        (.ok (some rebuilt), (dmServer lib codec moves s).state) ∧
      rebuilt = { attempt.envelope with members := rebuilt.members } ∧
      rebuilt.row lib.ed25519 codec = attempt.envelope.row lib.ed25519 codec ∧
      (∀ key ∈ attempt.envelope.members, key ∈ rebuilt.members) ∧
      (NoneJoined conversationId e.job (dmServer lib codec moves s).history →
        ∀ key, key ∈ rebuilt.members ↔ key ∈ attempt.envelope.members) := by
  have hrun := (dmServer_sound lib codec moves s).run
  obtain ⟨pre, post, hsplit⟩ := List.append_of_mem he
  obtain ⟨-, hgood, -⟩ := hrun.split hsplit
  rw [hrequest] at hgood
  obtain ⟨members, dm, ⟨⟨⟨first, hfirst, hmembers⟩, read, hread, hcompose⟩, store, hstore,
    hstores⟩, henvelope, -⟩ := SendSent.attempted hgood hattempt
  have hmem : ∀ sent ∈ sentBy e.job pre, ∃ e' ∈ (dmServer lib codec moves s).history,
      e'.toSent = sent := by
    intro sent hsent
    obtain ⟨e', he', -, heq⟩ := mem_sentBy.mp hsent
    exact ⟨e', by rw [hsplit]; exact List.mem_append_left _ he', heq⟩
  obtain ⟨readEvent, hreadEvent, rfl⟩ := hmem read hread
  obtain ⟨storeEvent, hstoreEvent, rfl⟩ := hmem store hstore
  -- The message and its conversation are where they were.
  have hrow := stored_now hrun hstoreEvent hstores.mem
  obtain ⟨hconv, -, column, -, hcomposed⟩ := compose_eq_ok hcompose
  obtain ⟨hid, hconvId, -⟩ := row_eq_ok hcomposed
  have hfind := Table.find?_eq_some_iff.mpr ⟨hrow, hid⟩
  have hconvNow := (grows_now hrun hreadEvent).convType? hconv
  obtain ⟨-, db, hinsert⟩ := hstores
  have hload := @run_loadEnvelope codec _ _ _ _ hfind (hconvId.symm ▸ hconvNow)
  rw [federated_of_stored hcodec hcompose hinsert, hconvId] at hload
  have hmessageId : attempt.envelope.messageId = env.messageId := by
    rw [henvelope]
    rfl
  refine ⟨_, hmessageId ▸ hload, ?_, ?_, ?_, ?_⟩
  · rw [henvelope]
    rfl
  · rw [henvelope]
    rfl
  · intro key hkey
    rw [henvelope, ← hmembers] at hkey
    obtain ⟨firstEvent, hfirstEvent, heq⟩ := hmem first (List.mem_of_head? hfirst)
    rw [← heq] at hkey
    exact (grows_now hrun hfirstEvent).memberKeys hkey
  · intro hjoined key
    obtain ⟨pre', firstEvent, post', rfl, hjob, heq, hnone⟩ := exists_first_event hfirst
    have hsplit' : (dmServer lib codec moves s).history =
        pre' ++ firstEvent :: (post' ++ e :: post) := by
      rw [hsplit]
      simp
    have hsame : (dmServer lib codec moves s).state.db.membersOf conversationId =
        firstEvent.before.db.membersOf conversationId := by
      apply hrun.kept_from (fun u => u.db.membersOf conversationId =
        firstEvent.before.db.membersOf conversationId) hsplit' _ rfl
      intro later hlater hbefore
      rw [hjoined _ _ _ hsplit' hjob hnone later hlater]
      exact hbefore
    have hbefore : firstEvent.before = first.before := by rw [← heq]
    rw [henvelope, ← hmembers, ← hbefore]
    show key ∈ memberKeys (Db.loadMembers _ _) ↔ key ∈ memberKeys (Db.loadMembers _ _)
    rw [Db.loadMembers, hsame, Db.loadMembers]

/-- The laptop opens a group with the phone, whose hub is elsewhere, and its
owner. -/
def openGroup : DmRequest :=
  .create "g1" 5 laptopKey ⟨[phoneKey, ownerKey], [(phoneKey, "https://a.example")]⟩

/-- The laptop writes to the group. -/
def greetGroup : DmRequest :=
  .send chatEnv laptopKey "g1" greeting

theorem chatCodec_roundTrips : chatCodec.RoundTrips :=
  DmCodec.roundTrips_ofRecorded (by decide) (by decide) (by decide)

/-- The group is complete before the laptop writes; the last statement is the
attempt to deliver. -/
def completeMoves : List (Move DmRequest) :=
  .start openGroup :: List.replicate 6 (.exec 0) ++ .start greetGroup :: List.replicate 10 (.exec 1)

/-- The laptop writes before its owner is a member; the owner is entered after
the attempt to deliver. -/
def earlyMoves : List (Move DmRequest) :=
  .start openGroup :: List.replicate 4 (.exec 0) ++ .start greetGroup ::
    List.replicate 9 (.exec 1) ++ List.replicate 2 (.exec 0)

/-- The attempt that the laptop's request makes. -/
def groupAttempt (members : List String) : DmAttempt where
  hubUrl := "https://a.example"
  envelope := greeting.envelope chatEnv laptopKey "g1" "group" members
  retry := false

/-- The request that a job of the group's schedules was started for. -/
theorem request_of_job {moves : List (Move DmRequest)}
    (he : e ∈ (dmServer lib codec moves s).history) {request : DmRequest}
    (hjob : (moves.filterMap Move.request?)[e.job]? = some request) : e.request = request := by
  have hrequest := (dmServer_sound lib codec moves s).request?_eq he
  rw [dmServer, Server.request?_serve, hjob] at hrequest
  exact (Option.some.inj hrequest).symm

/-- A run of the group's schedules. -/
def groupRun (moves : List (Move DmRequest)) :
    Server DmRequest AppState ApiError DmAnswer :=
  dmServer (.ofRecorded []) chatCodec moves chatHub

theorem completeMoves_length : 15 < (groupRun completeMoves).history.length := by
  decide +kernel

/-- The statement that notes the attempt, once the group is complete. -/
def completeAttempt : Event DmRequest AppState :=
  (groupRun completeMoves).history.get ⟨15, completeMoves_length⟩

theorem completeAttempt_mem : completeAttempt ∈ (groupRun completeMoves).history :=
  List.get_mem ..

theorem completeAttempt_request : completeAttempt.request = greetGroup := by
  have hjob : completeAttempt.job = 1 := by decide +kernel
  apply request_of_job completeAttempt_mem
  rw [hjob]
  rfl

theorem loadEnvelope_of_attempted_completeMoves :
    chatCodec.RoundTrips ∧ completeAttempt ∈ (groupRun completeMoves).history ∧
      completeAttempt.request = .send chatEnv laptopKey "g1" greeting ∧
      completeAttempt.after.dmAttempts = completeAttempt.before.dmAttempts ++
        [groupAttempt [laptopKey, phoneKey, ownerKey]] ∧
      ∃ rebuilt, (loadEnvelope chatCodec chatEnv.messageId).run (groupRun completeMoves).state =
          (.ok (some rebuilt), (groupRun completeMoves).state) ∧
        ∀ key ∈ [laptopKey, phoneKey, ownerKey], key ∈ rebuilt.members := by
  have hattempt : completeAttempt.after.dmAttempts = completeAttempt.before.dmAttempts ++
      [groupAttempt [laptopKey, phoneKey, ownerKey]] := by decide +kernel
  obtain ⟨rebuilt, hload, -, -, hmembers, -⟩ := loadEnvelope_of_attempted chatCodec_roundTrips
    completeMoves chatHub completeAttempt_mem completeAttempt_request hattempt
  exact ⟨chatCodec_roundTrips, completeAttempt_mem, completeAttempt_request, hattempt, rebuilt,
    hload, hmembers⟩

theorem earlyMoves_length : 12 < (groupRun earlyMoves).history.length := by
  decide +kernel

/-- The statement that notes the attempt, before the owner is a member. -/
def earlyAttempt : Event DmRequest AppState :=
  (groupRun earlyMoves).history.get ⟨12, earlyMoves_length⟩

theorem earlyAttempt_mem : earlyAttempt ∈ (groupRun earlyMoves).history :=
  List.get_mem ..

theorem earlyAttempt_request : earlyAttempt.request = greetGroup := by
  have hjob : earlyAttempt.job = 1 := by decide +kernel
  apply request_of_job earlyAttempt_mem
  rw [hjob]
  rfl

/-- The retry names a member whom the first attempt did not know. -/
theorem not_loadEnvelope_eq_earlyMoves :
    ¬ ∀ (lib : Crates) (codec : DmCodec) (moves : List (Move DmRequest)) (s : AppState)
      (e : Event DmRequest AppState) (env : SendEnv) (user conversationId : String)
      (req : SendDmRequest) (attempt : DmAttempt) (rebuilt : FederatedDmRequest),
      codec.RoundTrips → e ∈ (dmServer lib codec moves s).history →
      e.request = .send env user conversationId req →
      e.after.dmAttempts = e.before.dmAttempts ++ [attempt] →
      ((loadEnvelope codec attempt.envelope.messageId).run
        (dmServer lib codec moves s).state).1 = .ok (some rebuilt) →
      rebuilt = { attempt.envelope with members := rebuilt.members } ∧
        ∀ key, key ∈ rebuilt.members ↔ key ∈ attempt.envelope.members := by
  intro h
  have hattempt : earlyAttempt.after.dmAttempts = earlyAttempt.before.dmAttempts ++
      [groupAttempt [laptopKey, phoneKey]] := by decide +kernel
  have hload : ((loadEnvelope chatCodec chatEnv.messageId).run (groupRun earlyMoves).state).1 =
      .ok (some (greeting.envelope chatEnv laptopKey "g1" "group"
        [laptopKey, phoneKey, ownerKey])) := by decide +kernel
  have hsame := h (.ofRecorded []) chatCodec earlyMoves chatHub earlyAttempt chatEnv laptopKey "g1"
    greeting (groupAttempt [laptopKey, phoneKey])
    (greeting.envelope chatEnv laptopKey "g1" "group" [laptopKey, phoneKey, ownerKey])
    chatCodec_roundTrips earlyAttempt_mem earlyAttempt_request hattempt hload
  have hmember : ownerKey ∈ [laptopKey, phoneKey] := (hsame.2 ownerKey).mp (by decide)
  exact absurd hmember (by decide)

end Voxply.Hub
