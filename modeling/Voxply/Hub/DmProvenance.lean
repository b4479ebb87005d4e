/-
# Who wrote a message

The sender of a stored message should be a member of its conversation.
`send_dm` asks for that.  `receive_federated_dm` stores what a peer delivers: it
takes the members from the peer when it creates the conversation, and does not
look at the members of one that it knows.  A peer can thus file a message under
any name in any conversation.

As long as peers deliver messages of members only, every stored message has a
sender who is a member; the first message of another sender breaks this.
-/

import Voxply.Hub.DmPairs
import Voxply.Math.Trace

namespace Voxply.Hub

open Voxply.Math Voxply.Identity

variable {lib : Crates} {codec : DmCodec} {s t : AppState}

/-! ## Authors -/

/-- The sender is a member, and has signed the envelope of an encrypted message
for this conversation. -/
structure Authored (E : Ed25519) (codec : DmCodec) (db : Db) (row : DmMessageRow) : Prop where
  member : db.conversationMembers.has (row.conversationId, row.sender) = true
  signed : row.isEncrypted = true → ∃ envelope, row.envelope codec = some envelope ∧
    checkEnvelope E codec row.sender envelope = .ok () ∧ envelope.convId = row.conversationId

/-- Every message has an author. -/
def Provenance (E : Ed25519) (codec : DmCodec) (db : Db) : Prop :=
  ∀ row ∈ db.dmMessages.rows, Authored E codec db row

/-- The state that a request leaves when it runs alone. -/
def DmRequest.exec (lib : Crates) (codec : DmCodec) (request : DmRequest) (s : AppState) :
    AppState :=
  ((request.handler lib codec).run s).2

/-- A delivery speaks for a member: a plain message that is new and not blocked
names a sender who is a member of the conversation or, if the conversation is
not known, is among the members that the peer names. -/
def DmRequest.Honest (request : DmRequest) (s : AppState) : Prop :=
  match request with
  | .receive _ req =>
      s.db.dmMessages.has req.messageId = true ∨
        s.db.blockedBy req.sender req.members = true ∨
        req.encryptedEnvelope.isSome = true ∨
        s.db.conversationMembers.has (req.conversationId, req.sender) = true ∨
        (s.db.conversations.has req.conversationId = false ∧ req.sender ∈ req.members)
  | _ => True

instance : ∀ (request : DmRequest) (s : AppState), Decidable (request.Honest s)
  | .create .., _ => inferInstanceAs (Decidable True)
  | .send .., _ => inferInstanceAs (Decidable True)
  | .receive .., _ => inferInstanceAs (Decidable (_ ∨ _ ∨ _ ∨ _ ∨ (_ ∧ _)))
  | .worker _, _ => inferInstanceAs (Decidable True)

section Authors

variable {E : Ed25519} {db db' : Db} {row : DmMessageRow}

theorem Authored.mono (h : Authored E codec db row) (hgrows : DmGrows db db') :
    Authored E codec db' row :=
  ⟨hgrows.has h.member, h.signed⟩

/-- A plain message needs a member for its sender. -/
theorem authored_plain_iff (hplain : row.isEncrypted = false) :
    Authored E codec db row ↔
      db.conversationMembers.has (row.conversationId, row.sender) = true := by
  constructor
  · exact fun h => h.member
  · intro h
    refine ⟨h, fun hencrypted => ?_⟩
    rw [hplain] at hencrypted
    cases hencrypted

theorem Provenance.of_same (h : Provenance E codec db) (hgrows : DmGrows db db')
    (hsame : db'.dmMessages = db.dmMessages) : Provenance E codec db' := by
  intro row hrow
  rw [hsame] at hrow
  exact (h row hrow).mono hgrows

/-- A new message is the only one that can be without an author. -/
theorem Provenance.append_iff (h : Provenance E codec db) (hgrows : DmGrows db db')
    (hrows : db'.dmMessages.rows = db.dmMessages.rows ++ [row]) :
    Provenance E codec db' ↔ Authored E codec db' row := by
  constructor
  · intro h'
    apply h'
    rw [hrows]
    exact List.mem_concat_self
  · intro hnew old hold
    rw [hrows] at hold
    rcases List.mem_append.mp hold with hold | hold
    · exact (h old hold).mono hgrows
    · rw [List.mem_singleton.mp hold]
      exact hnew

end Authors

/-! ## One request -/

theorem exec_grows (request : DmRequest) (s : AppState) :
    DmGrows s.db (request.exec lib codec s).db := by
  have hrel := @Prog.Follows.run_rel AppState ApiError DmAnswer _ _ _
    (fun s t => DmGrows s.db t.db) (fun a => DmGrows.refl a.db) (fun _ _ _ h h' => h.trans h')
    (request.handler lib codec) (request.handler_follows lib codec)
  exact hrel (fun _ _ h => h.grows) s

section Kept

variable {past : List (Sent AppState)} {sent : Sent AppState}

theorem CreateSent.dmMessages {newId : String} {now : Int} {user : String}
    {req : CreateConversationRequest} (h : CreateSent newId now user req past sent) :
    sent.after.db.dmMessages = sent.before.db.dmMessages := by
  cases h with
  | aside h => exact h.dmMessages
  | stub key h => rw [Sent.after, h]; rfl
  | conversation _ h =>
      exact kept_executed Db.dmMessages h fun _ => dmMessages_insertConversation _ _
  | member key hubUrl _ _ _ h =>
      exact kept_executed Db.dmMessages h fun _ => dmMessages_insertMember _ _

theorem WorkerSent.dmMessages (h : WorkerSent past sent) :
    sent.after.db.dmMessages = sent.before.db.dmMessages := by
  cases h with
  | aside h => exact h.dmMessages
  | retry row h =>
      cases h with
      | aside h => exact h.dmMessages
      | attempt envelope _ _ h => rw [Sent.after, h]; rfl
      | accepted h => rw [Sent.after, h]; rfl
      | dequeue _ h => rw [Sent.after, h]; rfl
      | orphan _ h => rw [Sent.after, h]; rfl
      | reschedule nextAt error _ _ h => rw [Sent.after, h]; rfl
      | bounce now error _ _ h => rw [Sent.after, h]; rfl

end Kept

/-- A request whose statements store no message. -/
theorem exec_dmMessages {request : DmRequest}
    (h : ∀ past sent, request.Sends lib codec past sent →
      sent.after.db.dmMessages = sent.before.db.dmMessages) (s : AppState) :
    (request.exec lib codec s).db.dmMessages = s.db.dmMessages :=
  @Prog.Follows.run_rel AppState ApiError DmAnswer _ _ _
    (fun s t => t.db.dmMessages = s.db.dmMessages) (fun _ => rfl) (fun _ _ _ h h' => h'.trans h)
    (request.handler lib codec) (request.handler_follows lib codec) h s

/-- Building the answer leaves the state alone. -/
theorem run_answer {A : Type} (p : Handler A) (f : A → DmAnswer) (s : AppState) :
    ((p >>= fun a => pure (f a)).run s).2 = (p.run s).2 :=
  (Prog.run_bind_changes (fun _ => rfl) p (fun _ => Prog.changes_ret (fun _ => rfl) _) s).symm

/-- A message that is sent here has an author. -/
theorem provenance_send (env : SendEnv) (user conversationId : String) (req : SendDmRequest)
    (h : Provenance lib.ed25519 codec s.db) :
    Provenance lib.ed25519 codec
      ((DmRequest.send env user conversationId req).exec lib codec s).db := by
  have hgrows := @exec_grows lib codec (.send env user conversationId req) s
  have hexec : (DmRequest.send env user conversationId req).exec lib codec s =
      ((sendDm lib codec env user conversationId req).run s).2 := run_answer _ _ s
  obtain ⟨t, hrun, hcases⟩ := run_sendDm_cases lib codec env user conversationId req s
  rw [hexec, hrun] at hgrows ⊢
  rcases hcases with rfl | ⟨dm, db, hmember, hdm, hinsert, ht⟩
  · exact h
  · obtain ⟨hcontent, -, hrows, hframe⟩ := insertDmMessage_eq_ok hinsert
    obtain ⟨-, -, column, -, hrow⟩ := compose_eq_ok hdm
    obtain ⟨-, hconv, hsender, -, -, -, hencrypted⟩ := row_eq_ok hrow
    -- The content of an encrypted message is `NULL`.
    have hplain : dm.isEncrypted = false := by
      cases hkind : dm.isEncrypted with
      | false => rfl
      | true =>
          rw [hkind] at hrow
          rw [insertDmMessage_encrypted hrow] at hinsert
          cases hinsert
    have hrows' : t.db.dmMessages.rows = s.db.dmMessages.rows ++ [dm.row] := by
      rw [ht.dmMessages, withDb_db, hrows]
    rw [h.append_iff hgrows hrows', authored_plain_iff (hencrypted.trans hplain), hconv, hsender]
    exact hgrows.has (mem_memberKeys.mp hmember)

/-! ## Receiving -/

section Receiving

variable {E : Ed25519} {now : Int} {req : FederatedDmRequest}

/-- A member whose references exist is there afterwards. -/
theorem insertMemberOrIgnore_of_refs {row : ConversationMemberRow} {db : Db}
    (hconv : db.conversations.has row.conversationId = true)
    (huser : db.users.has row.publicKey = true) :
    ∃ db', insertMemberOrIgnore row db = .ok db' ∧
      db' = { db with conversationMembers := db'.conversationMembers } ∧
      ∀ key, db'.conversationMembers.has key = true ↔
        db.conversationMembers.has key = true ∨ row.key = key := by
  unfold insertMemberOrIgnore
  cases hinsert : db.conversationMembers.insert? row with
  | none =>
      refine ⟨db, rfl, rfl, fun key => ⟨.inl, ?_⟩⟩
      rintro (h | rfl)
      · exact h
      · exact Table.has_iff.mpr (Table.insert?_eq_none_iff.mp hinsert)
  | some conversationMembers =>
      refine ⟨_, if_pos ⟨hconv, huser⟩, rfl, ?_⟩
      exact Table.has_of_append (Table.insert?_eq_some_iff.mp hinsert).2

/-- A member that a peer names is entered. -/
theorem run_adoptMember {conversationId : String} (createdAt : Int) (member : String)
    (hconv : s.db.conversations.has conversationId = true) :
    ∃ t, (adoptMember conversationId createdAt member).run s = (.ok (), t) ∧
      t.db.dmMessages = s.db.dmMessages ∧ t.db.conversations = s.db.conversations ∧
      ∀ key, t.db.conversationMembers.has (conversationId, key) = true ↔
        s.db.conversationMembers.has (conversationId, key) = true ∨ member = key := by
  have huser : (insertUserOrIgnore member createdAt s.db).users.has member = true :=
    (Table.has_insertOrIgnore ..).mpr (.inr rfl)
  obtain ⟨db, hinsert, hframe, hmembers⟩ :=
    @insertMemberOrIgnore_of_refs ⟨conversationId, member, createdAt, none⟩
      (insertUserOrIgnore member createdAt s.db) hconv huser
  refine ⟨(s.withDb (insertUserOrIgnore member createdAt s.db)).withDb db, ?_, ?_, ?_, ?_⟩
  · rw [adoptMember, ensureUserStub, Prog.run_bind_of_ok (run_write _ s)]
    exact run_execute_of_ok hinsert
  · rw [withDb_db, hframe]
    rfl
  · rw [withDb_db, hframe]
    rfl
  · intro key
    rw [withDb_db, hmembers]
    simp [ConversationMemberRow.key, insertUserOrIgnore]

theorem run_adoptMembers {conversationId : String} (createdAt : Int) {members : List String}
    (hconv : s.db.conversations.has conversationId = true) :
    ∃ t, (Prog.each members (adoptMember conversationId createdAt)).run s = (.ok (), t) ∧
      t.db.dmMessages = s.db.dmMessages ∧
      ∀ key, t.db.conversationMembers.has (conversationId, key) = true ↔
        s.db.conversationMembers.has (conversationId, key) = true ∨ key ∈ members := by
  induction members generalizing s with
  | nil => exact ⟨s, rfl, rfl, fun key => by simp⟩
  | cons member rest ih =>
      obtain ⟨t, hrun, hmessages, hconversations, hmembers⟩ :=
        run_adoptMember createdAt member hconv
      obtain ⟨u, hrun', hmessages', hmembers'⟩ := ih (hconversations ▸ hconv)
      refine ⟨u, ?_, hmessages'.trans hmessages, fun key => ?_⟩
      · rw [Prog.run_each_cons, Prog.run_bind_of_ok hrun, hrun']
      · rw [hmembers', hmembers, List.mem_cons, or_assoc, @eq_comm _ key member]

/-- What the message is filed in: the conversation that was there, or a new one
with the members that the peer names. -/
theorem run_adopt (req : FederatedDmRequest) (s : AppState) :
    ∃ t, (Prog.when (s.db.conversations.has req.conversationId = false)
        (adoptConversation req)).run s = (.ok (), t) ∧
      t.db.dmMessages = s.db.dmMessages ∧
      ∀ key, t.db.conversationMembers.has (req.conversationId, key) = true ↔
        s.db.conversationMembers.has (req.conversationId, key) = true ∨
          (s.db.conversations.has req.conversationId = false ∧ key ∈ req.members) := by
  cases hconv : s.db.conversations.has req.conversationId with
  | true => exact ⟨s, rfl, rfl, fun key => by simp⟩
  | false =>
      obtain ⟨conversations, hinsert, hrows⟩ :=
        @Table.insert?_of_free _ _ _ _ s.db.conversations
          ⟨req.conversationId, req.convType, req.createdAt⟩ hconv
      have hdb : insertConversation ⟨req.conversationId, req.convType, req.createdAt⟩ s.db =
          .ok { s.db with conversations := conversations } := by
        rw [insertConversation, hinsert]
      have hnow : conversations.has req.conversationId = true :=
        (Table.has_of_append hrows req.conversationId).mpr (.inr rfl)
      obtain ⟨t, hrun, hmessages, hmembers⟩ := @run_adoptMembers
        (s.withDb { s.db with conversations := conversations }) req.conversationId req.createdAt
        req.members hnow
      refine ⟨t, ?_, hmessages, fun key => ?_⟩
      · rw [Prog.when, if_pos rfl, adoptConversation, Prog.run_bind_of_ok (run_execute_of_ok hdb),
          hrun]
      · rw [hmembers]
        simp

/-- A message that is there, or whose sender is blocked, changes nothing. -/
theorem run_receive_ignored (h : s.db.dmMessages.has req.messageId = true ∨
    s.db.blockedBy req.sender req.members = true) :
    (receiveFederatedDm E codec now req).run s = (.ok .ok, s) := by
  rw [receiveFederatedDm, Prog.run_bind_of_ok (run_fetch _ s)]
  cases hpresent : s.db.dmMessages.has req.messageId with
  | true => rfl
  | false =>
      rw [hpresent] at h
      have hblocked := h.resolve_left Bool.false_ne_true
      rw [if_neg Bool.false_ne_true, Prog.run_bind_of_ok (run_isBlockedBy _ _ s), hblocked]
      rfl

/-- Any other message is stored in the conversation that was there or was
created for it. -/
theorem run_receive_accepted (hpresent : s.db.dmMessages.has req.messageId = false)
    (hblocked : s.db.blockedBy req.sender req.members = false) :
    ∃ t, (receiveFederatedDm E codec now req).run s = (storeReceived E codec now req).run t ∧
      t.db.dmMessages = s.db.dmMessages ∧
      ∀ key, t.db.conversationMembers.has (req.conversationId, key) = true ↔
        s.db.conversationMembers.has (req.conversationId, key) = true ∨
          (s.db.conversations.has req.conversationId = false ∧ key ∈ req.members) := by
  obtain ⟨t, hrun, hadopted⟩ := run_adopt req s
  refine ⟨t, ?_, hadopted⟩
  rw [receiveFederatedDm, Prog.run_bind_of_ok (run_fetch _ s), hpresent,
    if_neg Bool.false_ne_true, Prog.run_bind_of_ok (run_isBlockedBy _ _ s), hblocked,
    if_neg Bool.false_ne_true, Prog.run_bind_of_ok (run_fetch _ s), Prog.run_bind_of_ok hrun]

/-- An encrypted message is not stored: it has no content. -/
theorem storeReceived_encrypted (h : req.encryptedEnvelope.isSome = true) (s : AppState) :
    ((storeReceived E codec now req).run s).2.db.dmMessages = s.db.dmMessages := by
  rw [storeReceived, ensureUserStub, Prog.run_bind_of_ok (run_write _ s)]
  cases hrow : req.row E codec with
  | error e =>
      rw [Prog.run_bind_of_error (Prog.run_ofExcept _ _)]
      rfl
  | ok row =>
      have hcontent : row.content = none := by
        obtain ⟨envelope, henvelope⟩ := Option.isSome_iff_exists.mp h
        rw [FederatedDmRequest.row, henvelope] at hrow
        obtain ⟨_, -, hrow⟩ := except_bind_eq_ok_iff.mp hrow
        obtain ⟨text, -, hrow⟩ := except_bind_eq_ok_iff.mp hrow
        cases hrow
        rfl
      have hrefused : insertDmMessage row (insertUserOrIgnore req.sender req.createdAt s.db) =
          .error (.notNull "dm_messages.content") := if_pos hcontent
      rw [Prog.run_bind_of_ok (Prog.run_ofExcept _ _),
        Prog.run_bind_of_error (run_execute_of_error hrefused)]
      rfl

/-- A plain message is stored, whoever sent it. -/
theorem storeReceived_plain (h : req.encryptedEnvelope = none)
    (hfresh : s.db.dmMessages.has req.messageId = false) :
    ∃ row, row.conversationId = req.conversationId ∧ row.sender = req.sender ∧
      row.isEncrypted = false ∧
      ((storeReceived E codec now req).run s).2.db.dmMessages.rows =
        s.db.dmMessages.rows ++ [row] ∧
      ((storeReceived E codec now req).run s).2.db.conversationMembers =
        s.db.conversationMembers := by
  cases hrow : req.row E codec with
  | error e =>
      rw [FederatedDmRequest.row, h] at hrow
      cases hrow
  | ok row =>
      have hid := row_id_of_ok hrow
      have hcolumns : row.conversationId = req.conversationId ∧ row.sender = req.sender ∧
          row.isEncrypted = false ∧ row.content ≠ none := by
        rw [FederatedDmRequest.row, h] at hrow
        cases hrow
        exact ⟨rfl, rfl, rfl, Option.some_ne_none _⟩
      obtain ⟨hconv, hsender, hplain, hcontent⟩ := hcolumns
      obtain ⟨db, hstored⟩ := @insertDmMessage_of_free row
        (insertUserOrIgnore req.sender req.createdAt s.db) hcontent (hid ▸ hfresh)
      obtain ⟨-, -, hrows, hframe⟩ := insertDmMessage_eq_ok hstored
      refine ⟨row, hconv, hsender, hplain, ?_⟩
      rw [storeReceived, ensureUserStub, Prog.run_bind_of_ok (run_write _ s), hrow,
        Prog.run_bind_of_ok (Prog.run_ofExcept _ _),
        Prog.run_bind_of_ok (run_execute_of_ok hstored), Prog.run_bind_of_ok (run_fetch _ _),
        Prog.run_bind_of_ok (Prog.run_exec _ _), Prog.run_pure]
      refine ⟨hrows, ?_⟩
      show db.conversationMembers = s.db.conversationMembers
      rw [hframe]
      rfl

/-- A delivery leaves every message with an author exactly if it speaks for a
member. -/
theorem provenance_receive_iff (h : Provenance lib.ed25519 codec s.db) :
    Provenance lib.ed25519 codec ((DmRequest.receive now req).exec lib codec s).db ↔
      (DmRequest.receive now req).Honest s := by
  have hgrows := @exec_grows lib codec (.receive now req) s
  have hexec : (DmRequest.receive now req).exec lib codec s =
      ((receiveFederatedDm lib.ed25519 codec now req).run s).2 := run_answer _ _ s
  rw [hexec] at hgrows ⊢
  by_cases hignored : s.db.dmMessages.has req.messageId = true ∨
      s.db.blockedBy req.sender req.members = true
  · rw [run_receive_ignored hignored]
    exact ⟨fun _ => hignored.imp_right .inl, fun _ => h⟩
  have hpresent := Bool.eq_false_iff.mpr (not_or.mp hignored).1
  have hblocked := Bool.eq_false_iff.mpr (not_or.mp hignored).2
  obtain ⟨t, hrun, hmessages, hmembers⟩ :=
    @run_receive_accepted codec s lib.ed25519 now req hpresent hblocked
  rw [hrun] at hgrows ⊢
  cases henvelope : req.encryptedEnvelope with
  | some envelope =>
      have hencrypted : req.encryptedEnvelope.isSome = true := by rw [henvelope]; rfl
      have hsame := (@storeReceived_encrypted codec lib.ed25519 now req hencrypted t).trans
        hmessages
      exact ⟨fun _ => .inr (.inr (.inl hencrypted)), fun _ => h.of_same hgrows hsame⟩
  | none =>
      obtain ⟨row, hconv, hsender, hplain, hrows, hkept⟩ :=
        @storeReceived_plain codec t lib.ed25519 now req henvelope (hmessages ▸ hpresent)
      rw [hmessages] at hrows
      rw [h.append_iff hgrows hrows, authored_plain_iff hplain, hconv, hsender, hkept, hmembers]
      simp [DmRequest.Honest, hpresent, hblocked, henvelope]

end Receiving

/-! ## Runs -/

/-- One request: only a delivery can leave a message without an author. -/
theorem provenance_exec_iff (request : DmRequest) (s : AppState)
    (h : Provenance lib.ed25519 codec s.db) :
    Provenance lib.ed25519 codec (request.exec lib codec s).db ↔ request.Honest s := by
  cases request with
  | create newId now user req =>
      have hsame := @exec_dmMessages lib codec (.create newId now user req)
        (fun _ _ h => CreateSent.dmMessages h) s
      exact ⟨fun _ => trivial, fun _ => h.of_same (exec_grows _ s) hsame⟩
  | send env user conversationId req =>
      exact ⟨fun _ => trivial, fun _ => provenance_send env user conversationId req h⟩
  | receive now req => exact provenance_receive_iff h
  | worker ticks =>
      have hsame := @exec_dmMessages lib codec (.worker ticks)
        (fun _ _ h => WorkerSent.dmMessages h) s
      exact ⟨fun _ => trivial, fun _ => h.of_same (exec_grows _ s) hsame⟩

/-- **Stored messages have authors as long as peers speak for members.** From a
state in which every message has an author, all states of a run are such states
exactly if every delivery in it speaks for a member of the conversation. -/
theorem provenance_iff_honest (lib : Crates) (codec : DmCodec) (calls : List DmRequest)
    (s : AppState) (hs : Provenance lib.ed25519 codec s.db) :
    (∀ first, first <+: calls →
        Provenance lib.ed25519 codec (runAll (DmRequest.exec lib codec) first s).db) ↔
      Along (DmRequest.exec lib codec) DmRequest.Honest calls s :=
  Along.invariant_iff (fun s : AppState => Provenance lib.ed25519 codec s.db)
    provenance_exec_iff hs

/-- A peer delivers a message to the conversation of the laptop and the phone. -/
def delivery (sender : String) : DmRequest :=
  .receive 20
    { messageId := "9d1c4f7e-52b0-4a3e-8f6d-7c0b2e5a1f34"
      conversationId := "c1"
      convType := "dm"
      sender := sender
      members := [laptopKey, phoneKey]
      content := some "hello"
      attachments := []
      signature := none
      createdAt := 20
      encryptedEnvelope := none }

/-- The laptop has opened the conversation before. -/
def deliveryCalls (sender : String) : List DmRequest :=
  [laptopOpens, delivery sender]

def deliveryExec : DmRequest → AppState → AppState :=
  DmRequest.exec (.ofRecorded []) chatCodec

theorem pairHub_provenance : Provenance (Crates.ofRecorded []).ed25519 chatCodec pairHub.db :=
  fun _ hrow => absurd hrow List.not_mem_nil

theorem phoneDelivery_honest :
    Along deliveryExec DmRequest.Honest (deliveryCalls phoneKey) pairHub := by
  decide +kernel

theorem provenance_iff_honest_phoneDelivery :
    Provenance (Crates.ofRecorded []).ed25519 chatCodec pairHub.db ∧
      Along deliveryExec DmRequest.Honest (deliveryCalls phoneKey) pairHub ∧
      Provenance (Crates.ofRecorded []).ed25519 chatCodec
        (runAll deliveryExec (deliveryCalls phoneKey) pairHub).db :=
  ⟨pairHub_provenance, phoneDelivery_honest,
    (provenance_iff_honest (.ofRecorded []) chatCodec (deliveryCalls phoneKey) pairHub
      pairHub_provenance).mpr phoneDelivery_honest _ (List.prefix_refl _)⟩

/-- A peer files a message in the conversation under the name of someone who is
not a member of it. -/
theorem not_provenance_ownerDelivery :
    pairHub.db.dmMessages.rows = [] ∧
      ¬ Provenance (Crates.ofRecorded []).ed25519 chatCodec
        (runAll deliveryExec (deliveryCalls ownerKey) pairHub).db := by
  refine ⟨rfl, fun h => ?_⟩
  have hstranger : ∃ row ∈
      (runAll deliveryExec (deliveryCalls ownerKey) pairHub).db.dmMessages.rows,
      (runAll deliveryExec (deliveryCalls ownerKey) pairHub).db.conversationMembers.has
        (row.conversationId, row.sender) = false := by
    decide +kernel
  obtain ⟨row, hrow, hno⟩ := hstranger
  have hmember := (h row hrow).member
  rw [hno] at hmember
  cases hmember

end Voxply.Hub
