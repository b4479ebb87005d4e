/-
# Sending a message, start to end

What `send_dm` answers, and what it has stored by then, is a function of the
store it finds: once the message is in, neither the deliveries nor their
failures change the answer.  Two results follow.

A sender who is blocked by a recipient is answered at once, before the request
is looked at.  The answer is the one an unblocked sender gets only for a valid
plain message of a sender without a display name; everything else tells the two
apart.

A stored message is listed as it was sent.  Only plain messages are stored: the
content of an encrypted one is `NULL`, which the table does not allow.
-/

import Voxply.Hub.CanonicalIdentity
import Voxply.Hub.Dms

namespace Voxply.Hub

open Voxply.Math Voxply.Identity

/-! ## The block check -/

/-- Whether a member other than the sender has blocked the sender. -/
def Db.blockedBy (db : Db) (sender : String) (members : List String) : Bool :=
  members.any fun member => member ≠ sender ∧ db.isDmBlocked member sender

@[simp]
theorem run_isBlockedBy (sender : String) (members : List String) (s : AppState) :
    (isBlockedBy sender members).run s = (.ok (s.db.blockedBy sender members), s) := by
  induction members with
  | nil => rfl
  | cons member rest ih =>
      by_cases hself : member = sender
      · rw [isBlockedBy, if_pos hself, ih]
        simp [Db.blockedBy, hself]
      · rw [isBlockedBy, if_neg hself, Prog.run_bind_of_ok (run_fetch _ s)]
        cases hblocked : s.db.isDmBlocked member sender with
        | true => simp [Db.blockedBy, hself, hblocked]
        | false =>
            rw [if_neg Bool.false_ne_true, ih]
            simp [Db.blockedBy, hself, hblocked]

/-! ## Deliveries -/

/-- What deliveries leave alone. -/
structure Delivering (s t : AppState) : Prop where
  dmMessages : t.db.dmMessages = s.db.dmMessages
  conversationMembers : t.db.conversationMembers = s.db.conversationMembers
  conversations : t.db.conversations = s.db.conversations
  users : t.db.users = s.db.users
  dmBlocks : t.db.dmBlocks = s.db.dmBlocks

section Deliveries

variable {s : AppState}

theorem returns_fetch {A : Type} {inv : AppState → Prop} (f : Db → A) : (fetch f).Returns inv :=
  Prog.returns_query _

theorem returns_write {f : Db → Db} (h : ∀ t, Delivering s t → Delivering s (t.withDb (f t.db))) :
    (write f).Returns (Delivering s) :=
  fun t ht => ⟨(), t.withDb (f t.db), rfl, h t ht⟩

theorem postFederatedDm_returns (env : DeliveryEnv) (hubUrl token : String)
    (envelope : FederatedDmRequest) :
    (postFederatedDm env hubUrl token envelope).Returns (Delivering s) := by
  unfold postFederatedDm
  cases env.post token envelope with
  | none => exact Prog.returns_ret _
  | some status =>
      dsimp only
      split_ifs
      · apply Prog.Returns.bind
        · exact Prog.returns_exec fun t ht => ⟨ht.1, ht.2, ht.3, ht.4, ht.5⟩
        · exact fun _ => Prog.returns_ret _
      · exact Prog.returns_ret _

theorem loginToPeer_returns (lib : Crates) (env : DeliveryEnv) (hubUrl : String) :
    (loginToPeer lib env hubUrl).Returns (Delivering s) := by
  apply (Prog.returns_query _).bind
  intro identity
  cases authenticate lib.ed25519 identity env.remote with
  | error e => exact Prog.returns_ret _
  | ok fresh =>
      dsimp only
      cases getInfo env.remote with
      | error e => exact Prog.returns_ret _
      | ok info =>
          apply Prog.Returns.bind
          · exact returns_write fun t ht => ⟨ht.1, ht.2, ht.3, ht.4, ht.5⟩
          intro _
          apply Prog.Returns.bind
          · exact Prog.returns_exec fun t ht => ⟨ht.1, ht.2, ht.3, ht.4, ht.5⟩
          · exact fun _ => Prog.returns_ret _

theorem cachedToken_returns (hubUrl : String) : (cachedToken hubUrl).Returns (Delivering s) := by
  apply (returns_fetch _).bind
  intro peerKey
  cases peerKey with
  | none => exact Prog.returns_ret _
  | some key => exact Prog.returns_query _

/-- A delivery comes to an end, whatever the remote hub does. -/
theorem deliverFederatedDm_returns (lib : Crates) (env : DeliveryEnv) (retry : Bool)
    (hubUrl : String) (envelope : FederatedDmRequest) :
    (deliverFederatedDm lib env retry hubUrl envelope).Returns (Delivering s) := by
  apply Prog.Returns.bind
  · exact Prog.returns_exec fun t ht => ⟨ht.1, ht.2, ht.3, ht.4, ht.5⟩
  intro _
  apply (cachedToken_returns hubUrl).bind
  intro cached
  cases cached with
  | some token => exact postFederatedDm_returns env hubUrl token envelope
  | none =>
      apply (loginToPeer_returns lib env hubUrl).bind
      intro login
      cases login with
      | error e => exact Prog.returns_ret _
      | ok token => exact postFederatedDm_returns env hubUrl token envelope

/-- The outbox takes a delivery of a message that is stored. -/
theorem deliverTo_returns (lib : Crates) (now : Int) {envelope : FederatedDmRequest}
    (hubUrl : String) (env : DeliveryEnv)
    (hstored : s.db.dmMessages.has envelope.messageId = true) :
    (deliverTo lib now envelope hubUrl env).Returns (Delivering s) := by
  apply Prog.Returns.bind
  · intro t ht
    have hmessage : t.db.dmMessages.has envelope.messageId = true := ht.dmMessages ▸ hstored
    obtain ⟨db, hdb, hframe⟩ : ∃ db, insertOutboxOrIgnore
        { messageId := envelope.messageId, recipientHubUrl := hubUrl, nextAttemptAt := now } t.db =
          .ok db ∧ Delivering s (t.withDb db) := by
      unfold insertOutboxOrIgnore
      cases t.db.dmOutbox.insert? _ with
      | none => exact ⟨t.db, rfl, ht⟩
      | some dmOutbox =>
          exact ⟨_, if_pos hmessage, ⟨ht.1, ht.2, ht.3, ht.4, ht.5⟩⟩
    exact ⟨(), _, run_execute_of_ok hdb, hframe⟩
  intro _
  apply (deliverFederatedDm_returns lib env false hubUrl envelope).bind
  intro result
  cases result with
  | ok _ => exact returns_write fun t ht => ⟨ht.1, ht.2, ht.3, ht.4, ht.5⟩
  | error e => exact returns_write fun t ht => ⟨ht.1, ht.2, ht.3, ht.4, ht.5⟩

theorem deliveryUrls_returns (codec : DmCodec) (m : ConvMember) :
    (deliveryUrls codec m).Returns (Delivering s) := by
  apply (returns_fetch _).bind
  intro masterPubkey
  cases masterPubkey with
  | none => exact Prog.returns_ret _
  | some mpk => exact (returns_fetch _).bind fun _ => Prog.returns_ret _

theorem federateTo_returns (lib : Crates) (codec : DmCodec) (now : Int) (user : String)
    {envelope : FederatedDmRequest} (m : ConvMember) (delivery : ℕ → DeliveryEnv)
    (hstored : s.db.dmMessages.has envelope.messageId = true) :
    (federateTo lib codec now user envelope m delivery).Returns (Delivering s) := by
  unfold federateTo
  split_ifs
  · exact Prog.returns_ret _
  · apply (deliveryUrls_returns codec m).bind
    intro urls
    exact Prog.returns_each fun entry => deliverTo_returns lib now entry.1 _ hstored

theorem federate_returns (lib : Crates) (codec : DmCodec) (env : SendEnv) (user : String)
    {envelope : FederatedDmRequest} (members : List ConvMember)
    (hstored : s.db.dmMessages.has envelope.messageId = true) :
    (federate lib codec env user envelope members).Returns (Delivering s) :=
  Prog.returns_each fun entry =>
    federateTo_returns lib codec env.now user entry.1 (env.delivery entry.2) hstored

end Deliveries

/-! ## The answer -/

section Answer

variable (lib : Crates) (codec : DmCodec) (env : SendEnv) (user conversationId : String)
  (req : SendDmRequest)

/-- What an unblocked sender is answered. -/
def Db.unblockedAnswer (db : Db) : Except ApiError (StatusCode × DmMessageResponse) := do
  let dm ← req.compose lib codec env user conversationId (db.convType? conversationId)
  let _ ← (insertDmMessage dm.row db).mapError dbError
  .ok (.created, req.response env user conversationId (db.displayNameOf user) dm.isEncrypted)

/-- What a sender is answered. -/
def Db.sendAnswer (db : Db) : Except ApiError (StatusCode × DmMessageResponse) :=
  if user ∉ memberKeys (db.loadMembers conversationId) then
    .error ⟨.forbidden, "Not a member of this conversation"⟩
  else if db.blockedBy user (memberKeys (db.loadMembers conversationId)) then
    .ok (.created, req.placeholder env user conversationId)
  else db.unblockedAnswer lib codec env user conversationId req

variable {lib codec env user conversationId req} {s : AppState}

theorem insertDmMessage_eq_ok {row : DmMessageRow} {db db' : Db}
    (h : insertDmMessage row db = .ok db') :
    row.content ≠ none ∧ (∀ old ∈ db.dmMessages.rows, old.id ≠ row.id) ∧
      db'.dmMessages.rows = db.dmMessages.rows ++ [row] ∧
      db' = { db with dmMessages := db'.dmMessages } := by
  unfold insertDmMessage at h
  split_ifs at h with hcontent
  cases hinsert : db.dmMessages.insert? row with
  | none => simp [hinsert] at h
  | some dmMessages =>
      rw [hinsert] at h
      cases h
      obtain ⟨hfree, hrows⟩ := Table.insert?_eq_some_iff.mp hinsert
      exact ⟨hcontent, hfree, hrows, rfl⟩

/-- A message with content is stored under a free identifier. -/
theorem insertDmMessage_of_free {row : DmMessageRow} {db : Db} (hcontent : row.content ≠ none)
    (hfresh : db.dmMessages.has row.id = false) : ∃ db', insertDmMessage row db = .ok db' := by
  obtain ⟨dmMessages, hinsert, -⟩ := Table.insert?_of_free hfresh
  exact ⟨{ db with dmMessages := dmMessages }, by rw [insertDmMessage, if_neg hcontent, hinsert]⟩

/-- Once the message is stored, the request is answered. -/
theorem run_publishDm {members : List ConvMember} {dm : ComposedDm} {db : Db}
    (hid : dm.row.id = env.messageId) (hinsert : insertDmMessage dm.row s.db = .ok db) :
    ∃ t, (publishDm lib codec env user conversationId req members dm).run s =
        (.ok (.created, req.response env user conversationId (s.db.displayNameOf user)
          dm.isEncrypted), t) ∧ Delivering (s.withDb db) t := by
  obtain ⟨-, -, hrows, hframe⟩ := insertDmMessage_eq_ok hinsert
  have hstored : db.dmMessages.has env.messageId = true :=
    (Table.has_of_append hrows env.messageId).mpr (.inr hid)
  have hname : db.displayNameOf user = s.db.displayNameOf user := by
    rw [hframe]
    rfl
  rw [publishDm, Prog.run_bind_of_ok (run_execute_of_ok hinsert),
    Prog.run_bind_of_ok (run_fetch _ _), Prog.run_bind_of_ok (Prog.run_exec _ _), withDb_db, hname]
  have hloop : (federate lib codec env user (req.envelope env user conversationId dm.convType
      (memberKeys members)) members).Returns (Delivering (s.withDb db)) :=
    federate_returns lib codec env user members hstored
  obtain ⟨_, t, hrun, ht⟩ := hloop ((s.withDb db).announce env.messageId
    ⟨conversationId, user, s.db.displayNameOf user, wsContent dm.isEncrypted req.content, env.now⟩)
    ⟨rfl, rfl, rfl, rfl, rfl⟩
  exact ⟨t, by rw [Prog.run_bind_of_ok hrun, Prog.run_pure], ht⟩

/-- A composed message has passed every check. -/
theorem compose_eq_ok {convType : Option String} {dm : ComposedDm}
    (h : req.compose lib codec env user conversationId convType = .ok dm) :
    convType = some dm.convType ∧
      req.validate lib.ed25519 codec user dm.convType = .ok dm.isEncrypted ∧
      ∃ column, attachmentsColumn codec req.attachments = .ok column ∧
        req.row codec env user conversationId column dm.isEncrypted = .ok dm.row := by
  obtain ⟨ct, hct, h⟩ := except_bind_eq_ok_iff.mp h
  obtain ⟨isEncrypted, hvalid, h⟩ := except_bind_eq_ok_iff.mp h
  obtain ⟨column, hcolumn, h⟩ := except_bind_eq_ok_iff.mp h
  obtain ⟨row, hrow, h⟩ := except_bind_eq_ok_iff.mp h
  cases h
  cases convType with
  | none => cases hct
  | some ct' =>
      cases hct
      exact ⟨rfl, hvalid, column, hcolumn, hrow⟩

/-- The columns of a row that do not depend on the kind of message. -/
theorem row_eq_ok {column : Option String} {isEncrypted : Bool} {row : DmMessageRow}
    (h : req.row codec env user conversationId column isEncrypted = .ok row) :
    row.id = env.messageId ∧ row.conversationId = conversationId ∧ row.sender = user ∧
      row.attachments = column ∧ row.signature = none ∧ row.createdAt = env.now ∧
      row.isEncrypted = isEncrypted := by
  cases isEncrypted with
  | false =>
      cases h
      exact ⟨rfl, rfl, rfl, rfl, rfl, rfl, rfl⟩
  | true =>
      obtain ⟨ciphertext, -, h⟩ := except_bind_eq_ok_iff.mp h
      cases h
      exact ⟨rfl, rfl, rfl, rfl, rfl, rfl, rfl⟩

theorem id_of_compose {convType : Option String} {dm : ComposedDm}
    (h : req.compose lib codec env user conversationId convType = .ok dm) :
    dm.row.id = env.messageId := by
  obtain ⟨-, -, column, -, hrow⟩ := compose_eq_ok h
  exact (row_eq_ok hrow).1

/-- A request that stores nothing leaves the state as it is. -/
theorem run_sendDm_of_refused
    (h : user ∈ memberKeys (s.db.loadMembers conversationId) →
      s.db.blockedBy user (memberKeys (s.db.loadMembers conversationId)) = false →
      ∀ dm, req.compose lib codec env user conversationId (s.db.convType? conversationId) = .ok dm →
        ∃ e, insertDmMessage dm.row s.db = .error e) :
    (sendDm lib codec env user conversationId req).run s =
      (s.db.sendAnswer lib codec env user conversationId req, s) := by
  rw [sendDm, Prog.run_bind_of_ok (run_fetch _ s), Db.sendAnswer]
  by_cases hmember : user ∈ memberKeys (s.db.loadMembers conversationId)
  · rw [if_neg (not_not_intro hmember), Prog.run_bind_of_ok (Prog.run_ensure_of_pos hmember _ s),
      Prog.run_bind_of_ok (run_isBlockedBy _ _ s)]
    cases hblocked : s.db.blockedBy user (memberKeys (s.db.loadMembers conversationId)) with
    | true => rfl
    | false =>
        rw [if_neg Bool.false_ne_true, if_neg Bool.false_ne_true,
          Prog.run_bind_of_ok (run_fetch _ s), Db.unblockedAnswer]
        cases hdm : req.compose lib codec env user conversationId
            (s.db.convType? conversationId) with
        | error e => rfl
        | ok dm =>
            obtain ⟨e, he⟩ := h hmember hblocked dm hdm
            rw [Prog.run_bind_of_ok (Prog.run_ofExcept _ s), publishDm,
              Prog.run_bind_of_error (run_execute_of_error he)]
            simp [he, bind, Except.bind, Except.mapError]
  · rw [if_pos hmember, Prog.run_bind_of_error (Prog.run_ensure_of_neg hmember _ s)]

/-- A request that stores a message is answered `201`. -/
theorem run_sendDm_of_stored {dm : ComposedDm} {db : Db}
    (hmember : user ∈ memberKeys (s.db.loadMembers conversationId))
    (hblocked : s.db.blockedBy user (memberKeys (s.db.loadMembers conversationId)) = false)
    (hdm : req.compose lib codec env user conversationId (s.db.convType? conversationId) = .ok dm)
    (hinsert : insertDmMessage dm.row s.db = .ok db) :
    ∃ t, (sendDm lib codec env user conversationId req).run s =
        (s.db.sendAnswer lib codec env user conversationId req, t) ∧
      Delivering (s.withDb db) t := by
  obtain ⟨t, hrun, ht⟩ := @run_publishDm lib codec env user conversationId req s
    (s.db.loadMembers conversationId) dm db (id_of_compose hdm) hinsert
  refine ⟨t, ?_, ht⟩
  rw [sendDm, Prog.run_bind_of_ok (run_fetch _ s),
    Prog.run_bind_of_ok (Prog.run_ensure_of_pos hmember _ s),
    Prog.run_bind_of_ok (run_isBlockedBy _ _ s), hblocked, if_neg Bool.false_ne_true,
    Prog.run_bind_of_ok (run_fetch _ s), hdm, Prog.run_bind_of_ok (Prog.run_ofExcept _ s), hrun,
    Db.sendAnswer, if_neg (not_not_intro hmember), hblocked, if_neg Bool.false_ne_true,
    Db.unblockedAnswer, hdm]
  simp [hinsert, bind, Except.bind, Except.mapError]

/-- A request stores nothing, or a message that has passed every check. -/
theorem run_sendDm_cases (lib : Crates) (codec : DmCodec) (env : SendEnv)
    (user conversationId : String) (req : SendDmRequest) (s : AppState) :
    ∃ t, (sendDm lib codec env user conversationId req).run s =
        (s.db.sendAnswer lib codec env user conversationId req, t) ∧
      (t = s ∨ ∃ dm db, user ∈ memberKeys (s.db.loadMembers conversationId) ∧
        req.compose lib codec env user conversationId (s.db.convType? conversationId) = .ok dm ∧
        insertDmMessage dm.row s.db = .ok db ∧ Delivering (s.withDb db) t) := by
  by_cases h : user ∈ memberKeys (s.db.loadMembers conversationId) →
      s.db.blockedBy user (memberKeys (s.db.loadMembers conversationId)) = false →
      ∀ dm, req.compose lib codec env user conversationId (s.db.convType? conversationId) = .ok dm →
        ∃ e, insertDmMessage dm.row s.db = .error e
  · exact ⟨s, run_sendDm_of_refused h, .inl rfl⟩
  · simp only [not_forall, not_exists] at h
    obtain ⟨hmember, hblocked, dm, hdm, hstored⟩ := h
    cases hinsert : insertDmMessage dm.row s.db with
    | error e => exact absurd hinsert (hstored e)
    | ok db =>
        obtain ⟨t, hrun, ht⟩ := run_sendDm_of_stored hmember hblocked hdm hinsert
        exact ⟨t, hrun, .inr ⟨dm, db, hmember, hdm, hinsert, ht⟩⟩

/-- What is answered depends on the store alone, not on the deliveries. -/
theorem answer_sendDm (s : AppState) :
    ((sendDm lib codec env user conversationId req).run s).1 =
      s.db.sendAnswer lib codec env user conversationId req := by
  obtain ⟨t, hrun, -⟩ := run_sendDm_cases lib codec env user conversationId req s
  rw [hrun]

end Answer

/-! ## Blocks and what they give away -/

section Blocks

variable {lib : Crates} {codec : DmCodec} {env : SendEnv} {user conversationId : String}
  {req : SendDmRequest} {db : Db}

/-- A message that is answered to an unblocked sender exactly as to a blocked
one: a plain message that passes its checks, from a sender without a display
name. -/
structure Inconspicuous (codec : DmCodec) (env : SendEnv) (user conversationId : String)
    (req : SendDmRequest) (db : Db) : Prop where
  conversation : ∃ convType, db.convType? conversationId = some convType
  content : req.content.isSome = true
  plain : req.encryptedEnvelope = none
  attachments : checkAttachments req.attachments = .ok ()
  encodes : ∃ column, attachmentsColumn codec req.attachments = .ok column
  fresh : db.dmMessages.has env.messageId = false
  nameless : db.displayNameOf user = none

/-- The row of a plain message. -/
def plainRow (env : SendEnv) (user conversationId content : String) (column : Option String) :
    DmMessageRow where
  id := env.messageId
  conversationId := conversationId
  sender := user
  content := some content
  attachments := column
  createdAt := env.now

/-- A plain message that passes its checks. -/
theorem compose_plain {convType content : String} {column : Option String}
    (hcontent : req.content = some content) (hplain : req.encryptedEnvelope = none)
    (hattachments : checkAttachments req.attachments = .ok ())
    (hcolumn : attachmentsColumn codec req.attachments = .ok column) :
    req.compose lib codec env user conversationId (some convType) =
      .ok ⟨plainRow env user conversationId content column, false, convType⟩ := by
  simp [SendDmRequest.compose, SendDmRequest.validate, SendDmRequest.bodyKind, SendDmRequest.row,
    checkEncrypted, plainRow, hcontent, hplain, hattachments, hcolumn, bind, Except.bind]

theorem insertDmMessage_plain {content : String} {column : Option String}
    (hfresh : db.dmMessages.has env.messageId = false) :
    ∃ db', insertDmMessage (plainRow env user conversationId content column) db = .ok db' := by
  apply insertDmMessage_of_free _ hfresh
  exact Option.some_ne_none content

/-- A message that passes its checks has one kind of body. -/
theorem validate_eq_ok {E : Ed25519} {convType : String} {isEncrypted : Bool}
    (h : req.validate E codec user convType = .ok isEncrypted) :
    checkAttachments req.attachments = .ok () ∧
      ((isEncrypted = false ∧ req.encryptedEnvelope = none ∧ ∃ content,
        req.content = some content) ∨ (isEncrypted = true ∧ req.content = none ∧
          ∃ envelope, req.encryptedEnvelope = some envelope ∧ convType = "dm" ∧
            checkEnvelope E codec user envelope = .ok ())) := by
  obtain ⟨kind, hkind, h⟩ := except_bind_eq_ok_iff.mp h
  obtain ⟨_, hattachments, h⟩ := except_bind_eq_ok_iff.mp h
  obtain ⟨_, hcheck, h⟩ := except_bind_eq_ok_iff.mp h
  cases h
  refine ⟨hattachments, ?_⟩
  unfold SendDmRequest.bodyKind at hkind
  cases hcontent : req.content with
  | none =>
      cases henvelope : req.encryptedEnvelope with
      | none => simp [hcontent, henvelope] at hkind
      | some envelope =>
          simp only [hcontent, henvelope] at hkind
          split_ifs at hkind with hdm
          cases hkind
          rw [henvelope] at hcheck
          exact .inr ⟨rfl, rfl, envelope, rfl, not_not.mp hdm, hcheck⟩
  | some content =>
      cases henvelope : req.encryptedEnvelope with
      | some envelope => simp [hcontent, henvelope] at hkind
      | none =>
          simp only [hcontent, henvelope] at hkind
          cases hkind
          exact .inl ⟨rfl, rfl, content, rfl⟩

/-- The table refuses the row of an encrypted message. -/
theorem insertDmMessage_encrypted {column : Option String} {row : DmMessageRow}
    (h : req.row codec env user conversationId column true = .ok row) (db : Db) :
    insertDmMessage row db = .error (.notNull "dm_messages.content") := by
  obtain ⟨ciphertext, -, h⟩ := except_bind_eq_ok_iff.mp h
  cases h
  rfl

theorem unblockedAnswer_eq_placeholder_iff :
    db.unblockedAnswer lib codec env user conversationId req =
        .ok (.created, req.placeholder env user conversationId) ↔
      Inconspicuous codec env user conversationId req db := by
  constructor
  · intro h
    obtain ⟨dm, hdm, h⟩ := except_bind_eq_ok_iff.mp h
    obtain ⟨db', hinsert, h⟩ := except_bind_eq_ok_iff.mp h
    rw [mapError_eq_ok_iff] at hinsert
    simp only [SendDmRequest.response, SendDmRequest.placeholder, Except.ok.injEq, Prod.mk.injEq,
      DmMessageResponse.mk.injEq, true_and] at h
    obtain ⟨hname, hkind, hplain⟩ := h
    obtain ⟨hconv, hvalid, column, hcolumn, hrow⟩ := compose_eq_ok hdm
    obtain ⟨hattachments, ⟨-, -, content, hcontent⟩ | ⟨henc, -⟩⟩ := validate_eq_ok hvalid
    · obtain ⟨-, hfree, -⟩ := insertDmMessage_eq_ok hinsert
      exact ⟨⟨dm.convType, hconv⟩, by rw [hcontent, Option.isSome_some], hplain, hattachments,
        ⟨column, hcolumn⟩, Table.has_eq_false_iff.mpr ((row_eq_ok hrow).1 ▸ hfree), hname⟩
    · rw [hkind] at henc
      cases henc
  · intro h
    obtain ⟨convType, hconv⟩ := h.conversation
    obtain ⟨content, hcontent⟩ := Option.isSome_iff_exists.mp h.content
    obtain ⟨column, hcolumn⟩ := h.encodes
    obtain ⟨db', hinsert⟩ :=
      @insertDmMessage_plain env user conversationId db content column h.fresh
    rw [Db.unblockedAnswer, hconv, compose_plain hcontent h.plain h.attachments hcolumn]
    simp [bind, Except.bind, hinsert, Except.mapError, SendDmRequest.response,
      SendDmRequest.placeholder, h.plain, h.nameless]

/-- The store with other blocks. -/
def Db.withBlocks (db : Db) (blocks : Table DmBlockRow DmBlockRow.key) : Db :=
  { db with dmBlocks := blocks }

/-- The unblocked answer does not look at the blocks. -/
theorem unblockedAnswer_withBlocks (blocks : Table DmBlockRow DmBlockRow.key) :
    (db.withBlocks blocks).unblockedAnswer lib codec env user conversationId req =
      db.unblockedAnswer lib codec env user conversationId req := by
  have hconv : (db.withBlocks blocks).convType? conversationId = db.convType? conversationId := rfl
  have hname : (db.withBlocks blocks).displayNameOf user = db.displayNameOf user := rfl
  have hmessages : (db.withBlocks blocks).dmMessages = db.dmMessages := rfl
  rw [Db.unblockedAnswer, Db.unblockedAnswer, hconv, hname]
  cases req.compose lib codec env user conversationId (db.convType? conversationId) with
  | error e => rfl
  | ok dm =>
      simp only [bind, Except.bind, insertDmMessage, hmessages]
      split_ifs
      · rfl
      · cases db.dmMessages.insert? dm.row <;> rfl

/-- **What a block gives away.** Two states that differ in the blocks alone give
the sender the same answer exactly if the sender is not a member anyway, if the
sender is blocked in both or in neither, or if the message is an inconspicuous
one. -/
theorem sendDm_answer_eq_iff (lib : Crates) (codec : DmCodec) (env : SendEnv)
    (user conversationId : String) (req : SendDmRequest) (s : AppState)
    (blocks : Table DmBlockRow DmBlockRow.key) :
    ((sendDm lib codec env user conversationId req).run s).1 =
        ((sendDm lib codec env user conversationId req).run
          (s.withDb (s.db.withBlocks blocks))).1 ↔
      user ∉ memberKeys (s.db.loadMembers conversationId) ∨
        s.db.blockedBy user (memberKeys (s.db.loadMembers conversationId)) =
          (s.db.withBlocks blocks).blockedBy user
            (memberKeys (s.db.loadMembers conversationId)) ∨
        Inconspicuous codec env user conversationId req s.db := by
  have hmembers : (s.db.withBlocks blocks).loadMembers conversationId =
      s.db.loadMembers conversationId := rfl
  rw [answer_sendDm, answer_sendDm, withDb_db, Db.sendAnswer, Db.sendAnswer, hmembers,
    unblockedAnswer_withBlocks, ← @unblockedAnswer_eq_placeholder_iff lib]
  by_cases hmember : user ∈ memberKeys (s.db.loadMembers conversationId)
  · rw [if_neg (not_not_intro hmember), if_neg (not_not_intro hmember)]
    cases s.db.blockedBy user (memberKeys (s.db.loadMembers conversationId)) <;>
      cases (s.db.withBlocks blocks).blockedBy user
        (memberKeys (s.db.loadMembers conversationId)) <;>
      simp [hmember, eq_comm]
  · simp [hmember]

end Blocks

/-- A laptop whose owner goes by a name, and a phone. -/
def chatUsers : List UserRow :=
  [{ publicKey := laptopKey, firstSeenAt := 1, lastSeenAt := 1, displayName := some "Laptop" },
    { publicKey := phoneKey, firstSeenAt := 1, lastSeenAt := 1 }]

/-- The two have a conversation. -/
def chatDb : Db :=
  { Db.migrated with
    users := ⟨chatUsers, by decide⟩
    conversations := ⟨[⟨"c1", "dm", 5⟩], by decide⟩
    conversationMembers := ⟨[⟨"c1", laptopKey, 5, none⟩, ⟨"c1", phoneKey, 5, none⟩], by decide⟩ }

def chatHub : AppState where
  db := chatDb

/-- A hub that cannot be reached. -/
def deadHub : DeliveryEnv where
  now := 10
  remote := ⟨.unreachable, fun _ => .unreachable, fun _ => .unreachable⟩
  post := fun _ _ => none

def chatEnv : SendEnv where
  messageId := "3f0e7c52-8a41-4c6e-9b1d-5a2f6e9c0d11"
  now := 10
  delivery := fun _ _ => deadHub

def chatCodec : DmCodec :=
  .ofRecorded [] [] []

/-- The phone has blocked the laptop. -/
def phoneBlocks : Table DmBlockRow DmBlockRow.key :=
  ⟨[⟨phoneKey, laptopKey⟩], by decide⟩

def greeting : SendDmRequest where
  content := some "hi"

/-- A sender who goes by a name reads off the answer whether they are blocked:
the name is missing. -/
theorem not_sendDm_answer_eq_greeting :
    ¬ ∀ (lib : Crates) (codec : DmCodec) (env : SendEnv) (user conversationId : String)
      (req : SendDmRequest) (s : AppState) (blocks : Table DmBlockRow DmBlockRow.key),
      (∀ owner blocked, blocked ≠ user →
        s.db.dmBlocks.has (owner, blocked) = blocks.has (owner, blocked)) →
      ((sendDm lib codec env user conversationId req).run s).1 =
        ((sendDm lib codec env user conversationId req).run
          (s.withDb (s.db.withBlocks blocks))).1 := by
  intro h
  have hsame := h (.ofRecorded []) chatCodec chatEnv laptopKey "c1" greeting chatHub phoneBlocks
    fun owner blocked hother => by
      have hblocks : phoneBlocks.has (owner, blocked) = false := by
        simp [Table.has_eq_false_iff, phoneBlocks, DmBlockRow.key, hother.symm]
      rw [hblocks]
      rfl
  rw [answer_sendDm, answer_sendDm] at hsame
  exact absurd hsame (by decide +kernel)

/-! ## Reading back -/

section ReadBack

variable {lib : Crates} {codec : DmCodec} {env : SendEnv} {user conversationId : String}
  {req : SendDmRequest} {s : AppState}

theorem mem_memberKeys {db : Db} {key : String} :
    key ∈ memberKeys (db.loadMembers conversationId) ↔
      db.conversationMembers.has (conversationId, key) = true := by
  simp [memberKeys, Db.loadMembers, Db.membersOf, Table.has_iff,
    ConversationMemberRow.key, and_assoc]

/-- What the attachments column was written from. -/
theorem parseDmAttachments_of_column (hcodec : codec.RoundTrips) {attachments : List Attachment}
    {column : Option String} (h : attachmentsColumn codec attachments = .ok column) :
    parseDmAttachments codec column = attachments := by
  unfold attachmentsColumn at h
  split_ifs at h with hempty
  · cases h
    rw [hempty]
    rfl
  · rw [mapError_eq_ok_iff] at h
    cases htext : codec.writeAttachments attachments with
    | error e =>
        rw [htext] at h
        cases h
    | ok text =>
        rw [htext] at h
        cases h
        have hread := hcodec.attachments attachments text htext
        have hne : text ≠ "" := by
          rintro rfl
          exact hcodec.empty attachments hread
        have hfilter : (some text).filter (· ≠ "") = some text := by
          simp [Option.filter, hne]
        rw [parseDmAttachments, hfilter, Option.bind_some, hread]
        rfl

/-- The values of a request have a text. -/
def SendDmRequest.Encodes (req : SendDmRequest) (codec : DmCodec) : Prop :=
  (∃ text, codec.writeAttachments req.attachments = .ok text) ∧
    ∀ envelope, req.encryptedEnvelope = some envelope →
      ∃ text, codec.writeEnvelope envelope = .ok text

theorem SendDmRequest.Encodes.column (h : req.Encodes codec) :
    ∃ column, attachmentsColumn codec req.attachments = .ok column := by
  unfold attachmentsColumn
  split_ifs
  · exact ⟨none, rfl⟩
  · obtain ⟨text, htext⟩ := h.1
    exact ⟨some text, by rw [htext]; rfl⟩

/-- The message is stored, and every member finds it in the list with the
content, the attachments and the envelope that were sent. -/
def ReadsBack (lib : Crates) (codec : DmCodec) (env : SendEnv) (user conversationId : String)
    (req : SendDmRequest) (s : AppState) : Prop :=
  (∃ row ∈ ((sendDm lib codec env user conversationId req).run s).2.db.dmMessages.rows,
      row.id = env.messageId) ∧
    ∀ reader ∈ memberKeys (s.db.loadMembers conversationId), ∃ messages,
      ((listDmMessages codec reader conversationId).run
          ((sendDm lib codec env user conversationId req).run s).2).1 = .ok messages ∧
        ∃ message ∈ messages, message.id = env.messageId ∧ message.content = req.content ∧
          message.attachments = req.attachments ∧
          message.isEncrypted = req.encryptedEnvelope.isSome ∧
          message.encryptedEnvelope = req.encryptedEnvelope

/-- What a member is shown of a stored message. -/
theorem listDmMessages_of_mem {t : AppState} {reader : String} {row : DmMessageRow}
    (hreader : t.db.conversationMembers.has (conversationId, reader) = true)
    (hrow : row ∈ t.db.dmMessages.rows) (hconv : row.conversationId = conversationId) :
    ∃ messages, ((listDmMessages codec reader conversationId).run t).1 = .ok messages ∧
      row.response codec t.db ∈ messages := by
  refine ⟨_, by
    rw [listDmMessages, Prog.run_bind_of_ok (run_fetch _ t),
      Prog.run_bind_of_ok (Prog.run_ensure_of_pos hreader _ t), run_fetch], ?_⟩
  apply List.mem_map_of_mem
  rw [List.mem_insertionSort, List.mem_filter]
  exact ⟨hrow, by simpa using hconv⟩

/-- **Plain messages read back as they were sent, and no others are stored.** A
message that passes the checks of `send_dm` is stored and listed unchanged
exactly if it is a plain one and no other member has blocked the sender. -/
theorem sendDm_readsBack_iff (hcodec : codec.RoundTrips)
    (hmember : user ∈ memberKeys (s.db.loadMembers conversationId)) {convType : String}
    (hconv : s.db.convType? conversationId = some convType) {isEncrypted : Bool}
    (hvalid : req.validate lib.ed25519 codec user convType = .ok isEncrypted)
    (hencodes : req.Encodes codec) (hfresh : s.db.dmMessages.has env.messageId = false) :
    ReadsBack lib codec env user conversationId req s ↔
      req.encryptedEnvelope = none ∧
        s.db.blockedBy user (memberKeys (s.db.loadMembers conversationId)) = false := by
  obtain ⟨hattachments, hkind⟩ := validate_eq_ok hvalid
  constructor
  · -- A refused request leaves no row under the new identifier.
    rintro ⟨⟨row, hrow, hid⟩, -⟩
    by_contra hnot
    rw [run_sendDm_of_refused] at hrow
    · exact Table.has_eq_false_iff.mp hfresh row hrow hid
    intro _ hblocked dm hdm
    rw [hconv] at hdm
    obtain ⟨heq, hvalid', column, -, hcomposed⟩ := compose_eq_ok hdm
    cases heq
    rw [hvalid, Except.ok.injEq] at hvalid'
    rcases hkind with ⟨-, hplain, -⟩ | ⟨rfl, -, -⟩
    · exact absurd ⟨hplain, hblocked⟩ hnot
    · rw [← hvalid'] at hcomposed
      exact ⟨_, insertDmMessage_encrypted hcomposed s.db⟩
  · rintro ⟨hplain, hblocked⟩
    rcases hkind with ⟨-, -, content, hcontent⟩ | ⟨-, -, envelope, henvelope, -⟩
    · obtain ⟨column, hcolumn⟩ := hencodes.column
      have hdm : req.compose lib codec env user conversationId (s.db.convType? conversationId) =
          .ok ⟨plainRow env user conversationId content column, false, convType⟩ := by
        rw [hconv]
        exact compose_plain hcontent hplain hattachments hcolumn
      obtain ⟨db, hinsert⟩ :=
        @insertDmMessage_plain env user conversationId s.db content column hfresh
      obtain ⟨t, hrun, ht⟩ := run_sendDm_of_stored hmember hblocked hdm hinsert
      obtain ⟨-, -, hrows, hframe⟩ := insertDmMessage_eq_ok hinsert
      have hstored : plainRow env user conversationId content column ∈ t.db.dmMessages.rows := by
        rw [ht.dmMessages, withDb_db, hrows]
        simp
      have hmembers : t.db.conversationMembers = s.db.conversationMembers := by
        rw [ht.conversationMembers, withDb_db, hframe]
      rw [ReadsBack, hrun]
      refine ⟨⟨_, hstored, rfl⟩, fun reader hreader => ?_⟩
      rw [mem_memberKeys, ← hmembers] at hreader
      obtain ⟨messages, hlist, hlisted⟩ := listDmMessages_of_mem hreader hstored rfl
      refine ⟨messages, hlist, _, hlisted, rfl, hcontent.symm, ?_, ?_, ?_⟩
      · exact parseDmAttachments_of_column hcodec hcolumn
      · rw [hplain]
        rfl
      · rw [hplain]
        rfl
    · rw [hplain] at henvelope
      cases henvelope

end ReadBack

/-- A message with an attachment. -/
def picture : Attachment where
  name := "a.txt"
  mime := "text/plain"
  dataB64 := "aGk="

def pictureMessage : SendDmRequest where
  content := some "look"
  attachments := [picture]

/-- An encrypted message, signed by the laptop. -/
def sealedEnvelope : EncryptedDmEnvelope where
  senderPubkey := laptopKey
  convId := "c1"
  ciphertextHex := "00ff"
  nonceHex := "0102"
  dhPubkeyHex := "0a0b"
  signatureHex := "71eaa8b5981c2901fda5548d34d7f7a7d4e4574484581dbd401a72873c2dd904" ++
    "6801548d3874c82b2f980447a0b645f66b411316ca078a7e1351a4e3ccbe500b"

def sealedMessage : SendDmRequest where
  encryptedEnvelope := some sealedEnvelope

def chatLib : Crates :=
  .ofRecorded [⟨.replicate 32 1, laptopKey, envelopeSigningBytes sealedEnvelope,
    sealedEnvelope.signatureHex⟩]

/-- The texts that `serde_json` writes for these messages. -/
def jsonCodec : DmCodec :=
  .ofRecorded
    [([], "[]"),
      ([picture], "[\x7b\"name\":\"a.txt\",\"mime\":\"text/plain\",\"data_b64\":\"aGk=\"\x7d]")]
    [(sealedEnvelope, "\x7b\"sender_pubkey\":\"" ++ laptopKey ++ "\",\"conv_id\":\"c1\"," ++
      "\"ciphertext_hex\":\"00ff\",\"nonce_hex\":\"0102\",\"dh_pubkey_hex\":\"0a0b\"," ++
      "\"signature_hex\":\"" ++ sealedEnvelope.signatureHex ++ "\"\x7d")]
    []

theorem jsonCodec_roundTrips : jsonCodec.RoundTrips :=
  DmCodec.roundTrips_ofRecorded (by decide +kernel) (by decide +kernel) (by decide +kernel)

theorem pictureMessage_encodes : pictureMessage.Encodes jsonCodec :=
  ⟨⟨_, rfl⟩, fun _ h => by cases h⟩

theorem sealedMessage_encodes : sealedMessage.Encodes jsonCodec :=
  ⟨⟨_, rfl⟩, fun _ h => by cases h; exact ⟨_, rfl⟩⟩

theorem sendDm_readsBack_iff_pictureMessage :
    jsonCodec.RoundTrips ∧ laptopKey ∈ memberKeys (chatHub.db.loadMembers "c1") ∧
      chatHub.db.convType? "c1" = some "dm" ∧
      pictureMessage.validate chatLib.ed25519 jsonCodec laptopKey "dm" = .ok false ∧
      pictureMessage.Encodes jsonCodec ∧
      chatHub.db.dmMessages.has chatEnv.messageId = false ∧
      (ReadsBack chatLib jsonCodec chatEnv laptopKey "c1" pictureMessage chatHub ↔
        pictureMessage.encryptedEnvelope = none ∧
          chatHub.db.blockedBy laptopKey (memberKeys (chatHub.db.loadMembers "c1")) = false) :=
  ⟨jsonCodec_roundTrips, by decide +kernel, by decide +kernel, by decide +kernel,
    pictureMessage_encodes, rfl,
    @sendDm_readsBack_iff chatLib jsonCodec chatEnv laptopKey "c1" pictureMessage chatHub
      jsonCodec_roundTrips (by decide +kernel) "dm" rfl false (by decide +kernel)
      pictureMessage_encodes rfl⟩

/-- An encrypted message passes every check and is not stored. -/
theorem not_readsBack_sealedMessage :
    ¬ ∀ (lib : Crates) (codec : DmCodec) (env : SendEnv) (user conversationId : String)
      (req : SendDmRequest) (s : AppState) (convType : String) (isEncrypted : Bool),
      codec.RoundTrips → user ∈ memberKeys (s.db.loadMembers conversationId) →
      s.db.blockedBy user (memberKeys (s.db.loadMembers conversationId)) = false →
      s.db.convType? conversationId = some convType →
      req.validate lib.ed25519 codec user convType = .ok isEncrypted → req.Encodes codec →
      s.db.dmMessages.has env.messageId = false →
      ReadsBack lib codec env user conversationId req s := by
  intro h
  obtain ⟨⟨row, hrow, -⟩, -⟩ := h chatLib jsonCodec chatEnv laptopKey "c1" sealedMessage chatHub
    "dm" true jsonCodec_roundTrips (by decide +kernel) (by decide +kernel) rfl (by decide +kernel)
    sealedMessage_encodes rfl
  have hnone : ((sendDm chatLib jsonCodec chatEnv laptopKey "c1" sealedMessage).run
      chatHub).2.db.dmMessages.rows = [] := by decide +kernel
  rw [hnone] at hrow
  cases hrow

end Voxply.Hub
