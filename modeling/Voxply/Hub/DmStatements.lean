/-
# What the statements about direct messages do

Creating a conversation, sending and receiving are sequences of statements on
the same few tables, and they run side by side.  One lemma for each of them says
which statements it can send and what it must have seen before: a conversation
of two is created only after none was found, a message is announced only after
it was stored, and a delivery leaves the outbox only after the remote hub has
accepted it.  Results about interleaved requests rest on these lemmas alone.
-/

import Voxply.Hub.DmSending

namespace Voxply.Hub

open Voxply.Math Voxply.Identity

variable {lib : Crates} {codec : DmCodec} {past later : List (Sent AppState)}
  {sent : Sent AppState}

/-! ## Frames -/

/-- Nothing about direct messages changes: neither the tables that the handlers
go by nor what the hub has sent out. -/
structure DmAside (s t : AppState) : Prop where
  users : t.db.users = s.db.users
  homeHubDesignations : t.db.homeHubDesignations = s.db.homeHubDesignations
  conversations : t.db.conversations = s.db.conversations
  conversationMembers : t.db.conversationMembers = s.db.conversationMembers
  dmMessages : t.db.dmMessages = s.db.dmMessages
  dmOutbox : t.db.dmOutbox = s.db.dmOutbox
  dmEvents : t.dmEvents = s.dmEvents
  dmAttempts : t.dmAttempts = s.dmAttempts
  dmAccepted : t.dmAccepted = s.dmAccepted

theorem DmAside.refl (s : AppState) : DmAside s s :=
  ⟨rfl, rfl, rfl, rfl, rfl, rfl, rfl, rfl, rfl⟩

/-- A query. -/
theorem dmAside_id (s : AppState) : DmAside (Sent.mk id s).before (Sent.mk id s).after :=
  DmAside.refl s

/-! ## Inserts -/

section Inserts

variable {db db' : Db}

/-- What no row that the write stores can change. -/
theorem kept_executed {A : Type} (read : Db → A) {f : Db → Except SqlError Db}
    (h : sent.statement = executed f)
    (hf : ∀ db', f sent.before.db = .ok db' → read db' = read sent.before.db) :
    read sent.after.db = read sent.before.db := by
  rw [Sent.after, h]
  rcases executed_cases f sent.before with heq | ⟨db, hdb, heq⟩
  · rw [heq]
  · rw [heq, withDb_db, hf db hdb]

theorem insertConversation_eq_ok {row : ConversationRow}
    (h : insertConversation row db = .ok db') :
    (∀ old ∈ db.conversations.rows, old.id ≠ row.id) ∧
      db'.conversations.rows = db.conversations.rows ++ [row] ∧
      db' = { db with conversations := db'.conversations } := by
  unfold insertConversation at h
  cases hinsert : db.conversations.insert? row with
  | none => simp [hinsert] at h
  | some conversations =>
      rw [hinsert] at h
      cases h
      obtain ⟨hfree, hrows⟩ := Table.insert?_eq_some_iff.mp hinsert
      exact ⟨hfree, hrows, rfl⟩

theorem insertMember_eq_ok {row : ConversationMemberRow} (h : insertMember row db = .ok db') :
    db.conversations.has row.conversationId = true ∧
      db'.conversationMembers.rows = db.conversationMembers.rows ++ [row] ∧
      db' = { db with conversationMembers := db'.conversationMembers } := by
  unfold insertMember at h
  cases hinsert : db.conversationMembers.insert? row with
  | none => simp [hinsert] at h
  | some conversationMembers =>
      simp only [hinsert] at h
      split_ifs at h with hkeys
      cases h
      exact ⟨hkeys.1, (Table.insert?_eq_some_iff.mp hinsert).2, rfl⟩

/-- A member is there already, or is entered as by a plain insert. -/
theorem insertMemberOrIgnore_eq_ok {row : ConversationMemberRow}
    (h : insertMemberOrIgnore row db = .ok db') : db' = db ∨ insertMember row db = .ok db' := by
  unfold insertMemberOrIgnore at h
  unfold insertMember
  cases hinsert : db.conversationMembers.insert? row with
  | none =>
      rw [hinsert] at h
      cases h
      exact .inl rfl
  | some conversationMembers =>
      rw [hinsert] at h
      exact .inr h

theorem insertOutboxOrIgnore_eq_ok {row : DmOutboxRow}
    (h : insertOutboxOrIgnore row db = .ok db') :
    (db' = db ∧ db.dmOutbox.has row.key = true) ∨
      db.dmMessages.has row.messageId = true ∧
        db'.dmOutbox.rows = db.dmOutbox.rows ++ [row] ∧
        db' = { db with dmOutbox := db'.dmOutbox } := by
  unfold insertOutboxOrIgnore at h
  cases hinsert : db.dmOutbox.insert? row with
  | none =>
      rw [hinsert] at h
      cases h
      obtain ⟨old, hold, hkey⟩ := Table.insert?_eq_none_iff.mp hinsert
      exact .inl ⟨rfl, Table.has_iff.mpr ⟨old, hold, hkey⟩⟩
  | some dmOutbox =>
      simp only [hinsert] at h
      split_ifs at h with hmessage
      cases h
      exact .inr ⟨hmessage, (Table.insert?_eq_some_iff.mp hinsert).2, rfl⟩

end Inserts

/-! ## Deliveries -/

/-- The remote hub has accepted the message. -/
def RemoteAccepted (messageId hubUrl : String) (past : List (Sent AppState)) : Prop :=
  ∃ earlier ∈ past, earlier.statement = fun s => s.noteAccepted messageId hubUrl

/-- What a delivery sends once the attempt is noted. -/
inductive DeliverSent (messageId hubUrl : String) (sent : Sent AppState) : Prop
  | aside (h : DmAside sent.before sent.after)
  | accepted (h : sent.statement = fun s => s.noteAccepted messageId hubUrl)

section Deliveries

variable {env : DeliveryEnv} {hubUrl : String} {envelope : FederatedDmRequest}
  {good : List (Sent AppState) → Sent AppState → Prop}

theorem postFederatedDm_follows (token : String)
    (hgood : ∀ past' sent, past <+: past' → DeliverSent envelope.messageId hubUrl sent →
      good past' sent) :
    (postFederatedDm env hubUrl token envelope).Follows good
      (fun result past' => result = .ok () →
        RemoteAccepted envelope.messageId hubUrl past') past := by
  unfold postFederatedDm
  cases env.post token envelope with
  | none => exact Prog.follows_ret fun h => by cases h
  | some status =>
      dsimp only
      split_ifs
      · apply Prog.follows_exec_bind
        · exact fun s => hgood past _ (List.prefix_refl past) (.accepted rfl)
        · exact fun s => Prog.follows_ret fun _ => ⟨_, List.mem_concat_self, rfl⟩
      · exact Prog.follows_ret fun h => by cases h

theorem loginToPeer_follows
    (hgood : ∀ past' sent, past <+: past' → DmAside sent.before sent.after → good past' sent) :
    (loginToPeer lib env hubUrl).Follows good (fun _ _ => True) past := by
  apply Prog.follows_query_bind
  · exact fun s => hgood past _ (List.prefix_refl past) (dmAside_id s)
  intro s
  cases authenticate lib.ed25519 s.hubIdentity env.remote with
  | error e => exact Prog.follows_ret trivial
  | ok fresh =>
      dsimp only
      cases getInfo env.remote with
      | error e => exact Prog.follows_ret trivial
      | ok info =>
          apply follows_write_bind
          · exact fun t => hgood _ _ (List.prefix_append ..)
              ⟨rfl, rfl, rfl, rfl, rfl, rfl, rfl, rfl, rfl⟩
          intro t
          apply Prog.follows_exec_bind
          · exact fun u => hgood _ _ ((List.prefix_append ..).trans (List.prefix_append ..))
              ⟨rfl, rfl, rfl, rfl, rfl, rfl, rfl, rfl, rfl⟩
          · exact fun u => Prog.follows_ret trivial

theorem cachedToken_follows
    (hgood : ∀ past' sent, past <+: past' → DmAside sent.before sent.after → good past' sent) :
    (cachedToken hubUrl).Follows good (fun _ _ => True) past := by
  apply follows_fetch_bind
  · exact fun s => hgood past _ (List.prefix_refl past) (dmAside_id s)
  intro s
  cases (s.db.peers.rows.find? (·.url = hubUrl)).map (·.publicKey) with
  | none => exact Prog.follows_ret trivial
  | some key =>
      apply Prog.follows_query
      · exact fun t => hgood _ _ (List.prefix_append ..) (dmAside_id t)
      · exact fun _ => trivial

/-- A delivery that returns without an error has been accepted. -/
theorem deliverFederatedDm_follows (retry : Bool)
    (hattempt : ∀ s, good past ⟨fun s => s.noteAttempt ⟨hubUrl, envelope, retry⟩, s⟩)
    (hgood : ∀ past' sent, past <+: past' → DeliverSent envelope.messageId hubUrl sent →
      good past' sent) :
    (deliverFederatedDm lib env retry hubUrl envelope).Follows good
      (fun result past' => result = .ok () →
        RemoteAccepted envelope.messageId hubUrl past') past := by
  apply Prog.follows_exec_bind hattempt
  intro s
  have haside : ∀ past' sent, past <+: past' → DmAside sent.before sent.after → good past' sent :=
    fun past' sent hpast h => hgood past' sent hpast (.aside h)
  apply (cachedToken_follows fun past' sent hpast =>
    haside past' sent ((List.prefix_append ..).trans hpast)).bind_any
  intro cached past' hpast
  have hstart : past <+: past' := (List.prefix_append ..).trans hpast
  cases cached with
  | some token =>
      exact postFederatedDm_follows token fun past'' sent hlater =>
        hgood past'' sent (hstart.trans hlater)
  | none =>
      apply (loginToPeer_follows fun past'' sent hlater =>
        haside past'' sent (hstart.trans hlater)).bind_any
      intro login past'' hlogin
      cases login with
      | error e => exact Prog.follows_ret fun h => by cases h
      | ok token =>
          exact postFederatedDm_follows token fun past''' sent hlater =>
            hgood past''' sent ((hstart.trans hlogin).trans hlater)

end Deliveries

/-! ## Creating a conversation -/

/-- The statement inserts the row of a conversation. -/
def Creates (row : ConversationRow) (sent : Sent AppState) : Prop :=
  sent.statement = executed (insertConversation row) ∧
    ∃ db, insertConversation row sent.before.db = .ok db

/-- The program has inserted the row of a conversation. -/
def Created (row : ConversationRow) (past : List (Sent AppState)) : Prop :=
  ∃ earlier ∈ past, Creates row earlier

/-- For a conversation of two, the program has first looked for the
conversations that the two share, and then found that none of these has two
members. -/
def FoundNoPair (user : String) (members : List String) (past : List (Sent AppState)) : Prop :=
  ∀ other, members = [other] → ∃ first, past.head? = some first ∧
    ∀ convId ∈ first.before.db.sharedDms user other,
      ∃ count ∈ past, (count.before.db.membersOf convId).length ≠ 2

/-- What `create_conversation` sends. -/
inductive CreateSent (newId : String) (now : Int) (user : String)
    (req : CreateConversationRequest) (past : List (Sent AppState)) (sent : Sent AppState) : Prop
  | aside (h : DmAside sent.before sent.after)
  | stub (key : String) (h : sent.statement = written (insertUserOrIgnore key now))
  | conversation (hlookup : FoundNoPair user req.members past)
      (h : sent.statement =
        executed (insertConversation ⟨newId, newConvType req.members, now⟩))
  | member (key : String) (hubUrl : Option String) (hkey : key ∈ user :: req.members)
      (hlookup : FoundNoPair user req.members past)
      (hcreated : Created ⟨newId, newConvType req.members, now⟩ past)
      (h : sent.statement = executed (insertMember ⟨newId, key, now, hubUrl⟩))

theorem Created.mono {row : ConversationRow} (h : Created row past) (hpast : past <+: later) :
    Created row later := by
  obtain ⟨earlier, hearlier, hcreated⟩ := h
  exact ⟨earlier, hpast.subset hearlier, hcreated⟩

theorem head?_of_prefix {first : Sent AppState} (h : past.head? = some first)
    (hpast : past <+: later) : later.head? = some first := by
  obtain ⟨rest, rfl⟩ := hpast
  rw [List.head?_append, h]
  rfl

theorem FoundNoPair.mono {user : String} {members : List String}
    (h : FoundNoPair user members past) (hpast : past <+: later) :
    FoundNoPair user members later := by
  intro other hother
  obtain ⟨first, hfirst, hcount⟩ := h other hother
  refine ⟨first, head?_of_prefix hfirst hpast, fun convId hconv => ?_⟩
  obtain ⟨count, hmem, hne⟩ := hcount convId hconv
  exact ⟨count, hpast.subset hmem, hne⟩

section Create

variable {newId : String} {now : Int} {user : String} {req : CreateConversationRequest}
  {good : List (Sent AppState) → Sent AppState → Prop}

theorem firstPair_follows (userA userB : String) {convs : List String}
    (hgood : ∀ past' sent, past <+: past' → DmAside sent.before sent.after → good past' sent) :
    (firstPair userA userB convs).Follows good
      (fun found past' => found = none →
        ∀ convId ∈ convs, ∃ count ∈ past', (count.before.db.membersOf convId).length ≠ 2) past := by
  induction convs generalizing past with
  | nil => exact Prog.follows_ret fun _ _ h => absurd h List.not_mem_nil
  | cons convId rest ih =>
      apply follows_fetch_bind
      · exact fun s => hgood past _ (List.prefix_refl past) (dmAside_id s)
      intro s
      split_ifs with hcount
      · apply follows_fetch_bind
        · exact fun t => hgood _ _ (List.prefix_append ..) (dmAside_id t)
        intro t
        cases t.db.conversations.find? convId with
        | none => exact Prog.follows_fail _
        | some conv => exact Prog.follows_ret fun h => by cases h
      · apply (ih fun past' sent hpast =>
          hgood past' sent ((List.prefix_append ..).trans hpast)).mono
        · exact fun _ _ _ h => h
        · intro found past' hpast hrest hnone convId' hconv
          rcases List.mem_cons.mp hconv with rfl | hconv
          · exact ⟨⟨id, s⟩, hpast.subset List.mem_concat_self, hcount⟩
          · exact hrest hnone convId' hconv

theorem lookupPair_follows {members : List String}
    (hgood : ∀ past' sent, DmAside sent.before sent.after → good past' sent) :
    (lookupPair user members).Follows good
      (fun found past' => found = none → FoundNoPair user members past') [] := by
  unfold lookupPair
  split
  · next other =>
      apply follows_fetch_bind
      · exact fun s => hgood _ _ (dmAside_id s)
      intro s
      apply (firstPair_follows user other fun past' sent _ => hgood past' sent).mono
      · exact fun _ _ _ h => h
      · intro found past' hpast hcount hnone other' hother
        cases hother
        exact ⟨⟨id, s⟩, head?_of_prefix rfl hpast, hcount hnone⟩
  · next hmembers =>
      exact Prog.follows_ret fun _ other hother => absurd hother (hmembers other)

/-- What `create_conversation` sends, and what it has seen by then. -/
theorem createConversation_follows :
    (createConversation newId now user req).Follows (CreateSent newId now user req)
      (fun _ _ => True) [] := by
  apply Prog.follows_ensure_bind
  intro _
  have hlookup : (lookupPair user req.members).Follows (CreateSent newId now user req)
      (fun found past' => found = none → FoundNoPair user req.members past') [] :=
    lookupPair_follows fun _ _ h => .aside h
  apply hlookup.bind
  intro existing past _ hfound
  cases existing with
  | some conv => exact Prog.follows_ret trivial
  | none =>
      apply follows_execute_bind
      · exact fun s => .conversation (hfound rfl) rfl
      intro s db hdb
      have hfound' := (hfound rfl).mono (List.prefix_append past
        [⟨executed (insertConversation ⟨newId, newConvType req.members, now⟩), s⟩])
      have hcreated : Created ⟨newId, newConvType req.members, now⟩ (past ++
          [⟨executed (insertConversation ⟨newId, newConvType req.members, now⟩), s⟩]) :=
        ⟨_, List.mem_concat_self, rfl, db, hdb⟩
      apply follows_execute_bind
      · exact fun t => .member user none List.mem_cons_self hfound' hcreated rfl
      intro t _ _
      apply Prog.Follows.bind_any
      · apply Prog.follows_each
        intro key hkey past' hpast
        have hstart := (List.prefix_append ..).trans hpast
        apply follows_write_bind
        · exact fun u => .stub key rfl
        intro u
        apply follows_execute
        · exact fun v => .member key _ (List.mem_cons_of_mem user hkey)
            (hfound'.mono (hstart.trans (List.prefix_append ..)))
            (hcreated.mono (hstart.trans (List.prefix_append ..))) rfl
        · exact fun _ _ _ => trivial
      · exact fun _ _ _ => Prog.follows_ret trivial

end Create

/-! ## Storing and announcing -/

/-- The statement stores a message. -/
def Stores (row : DmMessageRow) (sent : Sent AppState) : Prop :=
  sent.statement = executed (insertDmMessage row) ∧
    ∃ db, insertDmMessage row sent.before.db = .ok db

/-- The statement announces nothing. -/
def Silent (sent : Sent AppState) : Prop :=
  sent.after.dmEvents = sent.before.dmEvents

theorem DmAside.silent (h : DmAside sent.before sent.after) : Silent sent :=
  h.dmEvents

theorem silent_written {f : Db → Db} (s : AppState) : Silent ⟨written f, s⟩ :=
  rfl

theorem silent_executed {f : Db → Except SqlError Db} (s : AppState) :
    Silent ⟨executed f, s⟩ := by
  show (executed f s).dmEvents = s.dmEvents
  unfold executed
  cases f s.db <;> rfl

theorem silent_snoc (h : ∀ earlier ∈ past, Silent earlier) (hsent : Silent sent) :
    ∀ earlier ∈ past ++ [sent], Silent earlier := by
  intro earlier hearlier
  rcases List.mem_append.mp hearlier with hearlier | hearlier
  · exact h earlier hearlier
  · rw [List.mem_singleton.mp hearlier]
    exact hsent

/-! ## Sending -/

section Send

variable (lib : Crates) (codec : DmCodec) (env : SendEnv) (user conversationId : String)
  (req : SendDmRequest)

/-- The program has read the members first, and then a conversation that the
message was composed for. -/
def ComposedFrom (members : List ConvMember) (dm : ComposedDm)
    (past : List (Sent AppState)) : Prop :=
  (∃ first, past.head? = some first ∧ first.before.db.loadMembers conversationId = members) ∧
    ∃ read ∈ past, req.compose lib codec env user conversationId
      (read.before.db.convType? conversationId) = .ok dm

/-- The program has stored what it has composed. -/
def Published (members : List ConvMember) (dm : ComposedDm)
    (past : List (Sent AppState)) : Prop :=
  ComposedFrom lib codec env user conversationId req members dm past ∧
    ∃ store ∈ past, Stores dm.row store

/-- The program has resolved the URLs of a member. -/
def Resolved (m : ConvMember) (urls : List String) (past : List (Sent AppState)) : Prop :=
  ∃ read ∈ past, ∃ read' ∈ past, urls = chooseUrls
    (((read.before.db.users.find? m.publicKey).bind (·.masterPubkey)).bind fun mpk =>
      (read'.before.db.homeHubDesignations.find? mpk).bind fun row =>
        (codec.readUrls row.hubsJson).toOption) m.hubUrl

/-- The program has made sure that a delivery is in the outbox. -/
def Queued (messageId hubUrl : String) (past : List (Sent AppState)) : Prop :=
  ∃ earlier ∈ past, ∃ row db, row.key = (messageId, hubUrl) ∧
    earlier.statement = executed (insertOutboxOrIgnore row) ∧
    insertOutboxOrIgnore row earlier.before.db = .ok db

/-- Every delivery for a member has been queued. -/
def Dispatched (messageId : String) (m : ConvMember) (past : List (Sent AppState)) : Prop :=
  ∃ urls, Resolved codec m urls past ∧ ∀ hubUrl ∈ urls, Queued messageId hubUrl past

/-- What `send_dm` sends. -/
inductive SendSent (past : List (Sent AppState)) (sent : Sent AppState) : Prop
  | aside (h : DmAside sent.before sent.after)
  | store (members : List ConvMember) (dm : ComposedDm)
      (hcomposed : ComposedFrom lib codec env user conversationId req members dm past)
      (h : sent.statement = executed (insertDmMessage dm.row))
  | announce (row : DmMessageRow) (event : DmEvent) (hid : row.id = env.messageId)
      (hstored : ∃ store ∈ past, Stores row store) (hsilent : ∀ earlier ∈ past, Silent earlier)
      (h : sent.statement = fun s => s.announce env.messageId event)
  | queue (row : DmOutboxRow) (hid : row.messageId = env.messageId) (hattempts : row.attempts = 0)
      (hbounced : row.bouncedAt = none)
      (h : sent.statement = executed (insertOutboxOrIgnore row))
  | attempt (members : List ConvMember) (dm : ComposedDm) (hubUrl : String)
      (hpublished : Published lib codec env user conversationId req members dm past)
      (h : sent.statement = fun s => s.noteAttempt ⟨hubUrl,
        req.envelope env user conversationId dm.convType (memberKeys members), false⟩)
  | accepted (hubUrl : String)
      (h : sent.statement = fun s => s.noteAccepted env.messageId hubUrl)
  | dequeue (hubUrl : String) (haccepted : RemoteAccepted env.messageId hubUrl past)
      (h : sent.statement = written (deleteOutbox env.messageId hubUrl))
  | postpone (hubUrl error : String)
      (h : sent.statement = written (failOutbox env.messageId hubUrl (env.now + 10) error))

/-- What `send_dm` has done when it returns: nothing, or everything. -/
def SendDone (past : List (Sent AppState)) : Prop :=
  (∀ earlier ∈ past, DmAside earlier.before earlier.after) ∨
    ∃ members dm, Published lib codec env user conversationId req members dm past ∧
      ∀ m ∈ members, m.publicKey ≠ user → Dispatched codec env.messageId m past

variable {lib codec env user conversationId req} {members : List ConvMember} {dm : ComposedDm}

theorem ComposedFrom.mono (h : ComposedFrom lib codec env user conversationId req members dm past)
    (hpast : past <+: later) :
    ComposedFrom lib codec env user conversationId req members dm later := by
  obtain ⟨⟨first, hfirst, hmembers⟩, read, hread, hcompose⟩ := h
  exact ⟨⟨first, head?_of_prefix hfirst hpast, hmembers⟩, read, hpast.subset hread, hcompose⟩

theorem Published.mono (h : Published lib codec env user conversationId req members dm past)
    (hpast : past <+: later) :
    Published lib codec env user conversationId req members dm later := by
  obtain ⟨hcomposed, store, hstore, hstores⟩ := h
  exact ⟨hcomposed.mono hpast, store, hpast.subset hstore, hstores⟩

theorem Resolved.mono {m : ConvMember} {urls : List String} (h : Resolved codec m urls past)
    (hpast : past <+: later) : Resolved codec m urls later := by
  obtain ⟨read, hread, read', hread', heq⟩ := h
  exact ⟨read, hpast.subset hread, read', hpast.subset hread', heq⟩

theorem Queued.mono {messageId hubUrl : String} (h : Queued messageId hubUrl past)
    (hpast : past <+: later) : Queued messageId hubUrl later := by
  obtain ⟨earlier, hearlier, hqueued⟩ := h
  exact ⟨earlier, hpast.subset hearlier, hqueued⟩

theorem Dispatched.mono {messageId : String} {m : ConvMember}
    (h : Dispatched codec messageId m past) (hpast : past <+: later) :
    Dispatched codec messageId m later := by
  obtain ⟨urls, hurls, hqueued⟩ := h
  exact ⟨urls, hurls.mono hpast, fun hubUrl hurl => (hqueued hubUrl hurl).mono hpast⟩

/-- The block check reads, and a member that it reports was read. -/
theorem isBlockedBy_follows {good : List (Sent AppState) → Sent AppState → Prop} (sender : String)
    {keys : List String} (hgood : ∀ past' s, past <+: past' → good past' ⟨id, s⟩) :
    (isBlockedBy sender keys).Follows good
      (fun blocked past' => (∃ since, past' = past ++ since ∧ ∀ earlier ∈ since,
          earlier.statement = id) ∧ (blocked = true → ∃ earlier ∈ past', ∃ member ∈ keys,
            member ≠ sender ∧ earlier.before.db.isDmBlocked member sender = true)) past := by
  induction keys generalizing past with
  | nil =>
      exact Prog.follows_ret ⟨⟨[], (List.append_nil past).symm, by simp⟩, fun h => by cases h⟩
  | cons member rest ih =>
      unfold isBlockedBy
      split_ifs with hself
      · apply (ih hgood).mono
        · exact fun _ _ _ h => h
        · intro blocked past' _ h
          refine ⟨h.1, fun hblocked => ?_⟩
          obtain ⟨earlier, hearlier, member', hmember, hread⟩ := h.2 hblocked
          exact ⟨earlier, hearlier, member', List.mem_cons_of_mem member hmember, hread⟩
      · apply follows_fetch_bind
        · exact fun s => hgood past s (List.prefix_refl past)
        intro s
        split_ifs with hblocked
        · refine Prog.follows_ret ⟨⟨[⟨id, s⟩], rfl, by simp⟩, fun _ => ?_⟩
          exact ⟨_, List.mem_concat_self, member, List.mem_cons_self, hself, hblocked⟩
        · apply (ih fun past' t hpast => hgood past' t ((List.prefix_append ..).trans hpast)).mono
          · exact fun _ _ _ h => h
          · rintro blocked past' _ ⟨⟨since, rfl, hsince⟩, hread⟩
            refine ⟨⟨⟨id, s⟩ :: since, by simp, ?_⟩, fun hblocked => ?_⟩
            · intro earlier hearlier
              rcases List.mem_cons.mp hearlier with rfl | hearlier
              · rfl
              · exact hsince earlier hearlier
            · obtain ⟨earlier, hearlier, member', hmember, hread⟩ := hread hblocked
              exact ⟨earlier, hearlier, member', List.mem_cons_of_mem member hmember, hread⟩

theorem deliveryUrls_follows (m : ConvMember) :
    (deliveryUrls codec m).Follows (SendSent lib codec env user conversationId req)
      (fun urls past' => Resolved codec m urls past') past := by
  apply follows_fetch_bind
  · exact fun s => .aside (dmAside_id s)
  intro s
  cases hmaster : (s.db.users.find? m.publicKey).bind (·.masterPubkey) with
  | none =>
      refine Prog.follows_ret ⟨_, List.mem_concat_self, _, List.mem_concat_self, ?_⟩
      rw [hmaster]
      rfl
  | some mpk =>
      apply follows_fetch_bind
      · exact fun t => .aside (dmAside_id t)
      intro t
      refine Prog.follows_ret ⟨⟨id, s⟩, by simp, ⟨id, t⟩, List.mem_concat_self, ?_⟩
      rw [hmaster, Option.bind_some, Option.bind_map]
      rfl

/-- A delivery is queued before it is attempted, and taken out of the queue only
after it was accepted. -/
theorem deliverTo_follows (hubUrl : String) (denv : DeliveryEnv)
    (h : Published lib codec env user conversationId req members dm past) :
    (deliverTo lib env.now (req.envelope env user conversationId dm.convType (memberKeys members))
        hubUrl denv).Follows (SendSent lib codec env user conversationId req)
      (fun _ past' => Queued env.messageId hubUrl past') past := by
  apply follows_execute_bind
  · exact fun s => .queue _ rfl rfl rfl rfl
  intro s db hdb
  have hqueued : Queued env.messageId hubUrl (past ++ [⟨executed (insertOutboxOrIgnore
      { messageId := env.messageId, recipientHubUrl := hubUrl, nextAttemptAt := env.now }), s⟩]) :=
    ⟨_, List.mem_concat_self, _, db, rfl, rfl, hdb⟩
  apply Prog.Follows.bind
  · apply deliverFederatedDm_follows
    · exact fun t => .attempt members dm hubUrl (h.mono (List.prefix_append ..)) rfl
    · intro past' sent _ hsent
      cases hsent with
      | aside hsent => exact .aside hsent
      | accepted hsent => exact .accepted hubUrl hsent
  · intro result past' hpast haccepted
    cases result with
    | ok _ =>
        apply follows_write
        · exact fun t => .dequeue hubUrl (haccepted rfl) rfl
        · exact fun t => hqueued.mono (hpast.trans (List.prefix_append ..))
    | error e =>
        apply follows_write
        · exact fun t => .postpone hubUrl e rfl
        · exact fun t => hqueued.mono (hpast.trans (List.prefix_append ..))

theorem federateTo_follows (m : ConvMember) (delivery : ℕ → DeliveryEnv)
    (h : Published lib codec env user conversationId req members dm past) :
    (federateTo lib codec env.now user
        (req.envelope env user conversationId dm.convType (memberKeys members)) m
        delivery).Follows (SendSent lib codec env user conversationId req)
      (fun _ past' => m.publicKey ≠ user → Dispatched codec env.messageId m past') past := by
  unfold federateTo
  split_ifs with hself
  · exact Prog.follows_ret fun hother => absurd hself hother
  · apply (deliveryUrls_follows m).bind
    intro urls past' hpast hurls
    have hloop := @Prog.follows_each_all AppState ApiError
      (SendSent lib codec env user conversationId req) past' (String × ℕ)
      (fun entry past'' => Queued env.messageId entry.1 past'')
      (fun _ _ _ hlater hqueued => hqueued.mono hlater) urls.zipIdx
      (fun entry => deliverTo lib env.now
        (req.envelope env user conversationId dm.convType (memberKeys members)) entry.1
        (delivery entry.2))
      fun entry _ past'' hlater => deliverTo_follows entry.1 _ (h.mono (hpast.trans hlater))
    apply hloop.mono
    · exact fun _ _ _ hgood => hgood
    · intro _ past'' hlater hqueued _
      refine ⟨urls, hurls.mono hlater, fun hubUrl hurl => ?_⟩
      rw [← List.zipIdx_map_fst 0 urls, List.mem_map] at hurl
      obtain ⟨entry, hentry, rfl⟩ := hurl
      exact hqueued entry hentry

theorem federate_follows
    (h : Published lib codec env user conversationId req members dm past) :
    (federate lib codec env user
        (req.envelope env user conversationId dm.convType (memberKeys members))
        members).Follows (SendSent lib codec env user conversationId req)
      (fun _ past' => ∀ m ∈ members, m.publicKey ≠ user → Dispatched codec env.messageId m past')
      past := by
  have hloop := @Prog.follows_each_all AppState ApiError
    (SendSent lib codec env user conversationId req) past (ConvMember × ℕ)
    (fun entry past' => entry.1.publicKey ≠ user → Dispatched codec env.messageId entry.1 past')
    (fun _ _ _ hlater hdone hother => (hdone hother).mono hlater) members.zipIdx
    (fun entry => federateTo lib codec env.now user
      (req.envelope env user conversationId dm.convType (memberKeys members)) entry.1
      (env.delivery entry.2))
    fun entry _ past' hpast => federateTo_follows entry.1 _ (h.mono hpast)
  apply hloop.mono
  · exact fun _ _ _ hgood => hgood
  · intro _ past' _ hdone m hm
    rw [← List.zipIdx_map_fst 0 members, List.mem_map] at hm
    obtain ⟨entry, hentry, rfl⟩ := hm
    exact hdone entry hentry

theorem publishDm_follows
    (h : ComposedFrom lib codec env user conversationId req members dm past)
    (hid : dm.row.id = env.messageId)
    (hreads : ∀ earlier ∈ past, earlier.statement = id) :
    (publishDm lib codec env user conversationId req members dm).Follows
      (SendSent lib codec env user conversationId req)
      (fun _ => SendDone lib codec env user conversationId req) past := by
  apply follows_execute_bind
  · exact fun s => .store members dm h rfl
  intro s db hdb
  have hstored : ∃ store ∈ past ++ [⟨executed (insertDmMessage dm.row), s⟩],
      Stores dm.row store := ⟨_, List.mem_concat_self, rfl, db, hdb⟩
  have hpublished : Published lib codec env user conversationId req members dm
      (past ++ [⟨executed (insertDmMessage dm.row), s⟩]) :=
    ⟨h.mono (List.prefix_append ..), hstored⟩
  have hsilent : ∀ earlier ∈ past, Silent earlier := by
    intro earlier hearlier
    rw [Silent, Sent.after, hreads earlier hearlier]
    rfl
  apply follows_fetch_bind
  · exact fun t => .aside (dmAside_id t)
  intro t
  apply Prog.follows_exec_bind
  · refine fun u => .announce dm.row _ hid ?_ ?_ rfl
    · obtain ⟨store, hstore, hstores⟩ := hstored
      exact ⟨store, List.mem_append_left _ hstore, hstores⟩
    · exact silent_snoc (silent_snoc hsilent (silent_executed s)) (dmAside_id t).silent
  intro u
  have hpublished' := (hpublished.mono (List.prefix_append _ [⟨id, t⟩])).mono
    (List.prefix_append _ [⟨fun s => s.announce env.messageId ⟨conversationId, user,
      t.db.displayNameOf user, wsContent dm.isEncrypted req.content, env.now⟩, u⟩])
  apply (federate_follows hpublished').bind
  intro _ past' hpast hdone
  exact Prog.follows_ret (.inr ⟨members, dm, hpublished'.mono hpast, hdone⟩)

/-- What `send_dm` sends, and what it has done when it returns. -/
theorem sendDm_follows :
    (sendDm lib codec env user conversationId req).Follows
      (SendSent lib codec env user conversationId req)
      (fun _ => SendDone lib codec env user conversationId req) [] := by
  apply follows_fetch_bind
  · exact fun s => .aside (dmAside_id s)
  intro s
  apply Prog.follows_ensure_bind
  intro _
  apply (isBlockedBy_follows user fun past' t _ => .aside (dmAside_id t)).bind
  rintro blocked past' hpast ⟨⟨since, rfl, hsince⟩, -⟩
  have hreads : ∀ earlier ∈ [] ++ [⟨id, s⟩] ++ since, earlier.statement = id := by
    intro earlier hearlier
    rcases List.mem_append.mp hearlier with hearlier | hearlier
    · rw [List.mem_singleton.mp hearlier]
    · exact hsince earlier hearlier
  split_ifs
  · refine Prog.follows_ret (.inl fun earlier hearlier => ?_)
    rw [Sent.after, hreads earlier hearlier]
    exact DmAside.refl earlier.before
  · apply follows_fetch_bind
    · exact fun t => .aside (dmAside_id t)
    intro t
    apply Prog.follows_ofExcept_bind
    intro dm hdm
    apply publishDm_follows
    · exact ⟨⟨⟨id, s⟩, rfl, rfl⟩, ⟨id, t⟩, List.mem_concat_self, hdm⟩
    · exact id_of_compose hdm
    · intro earlier hearlier
      rcases List.mem_append.mp hearlier with hearlier | hearlier
      · exact hreads earlier hearlier
      · rw [List.mem_singleton.mp hearlier]

end Send

/-! ## Receiving -/

section Receive

variable (now : Int) (req : FederatedDmRequest)

/-- What `receive_federated_dm` sends. -/
inductive ReceiveSent (past : List (Sent AppState)) (sent : Sent AppState) : Prop
  | aside (h : DmAside sent.before sent.after)
  | stub (key : String) (h : sent.statement = written (insertUserOrIgnore key req.createdAt))
  | conversation (h : sent.statement =
      executed (insertConversation ⟨req.conversationId, req.convType, req.createdAt⟩))
  | member (key : String) (h : sent.statement =
      executed (insertMemberOrIgnore ⟨req.conversationId, key, req.createdAt, none⟩))
  | store (row : DmMessageRow) (hid : row.id = req.messageId)
      (h : sent.statement = executed (insertDmMessage row))
  | announce (row : DmMessageRow) (event : DmEvent) (hid : row.id = req.messageId)
      (hstored : ∃ store ∈ past, Stores row store) (hsilent : ∀ earlier ∈ past, Silent earlier)
      (h : sent.statement = fun s => s.announce req.messageId event)

/-- What `receive_federated_dm` has seen when it answers that all is well: the
message was there, the sender is blocked, or the message has been stored. -/
def ReceiveDone (past : List (Sent AppState)) : Prop :=
  (∃ earlier ∈ past, earlier.before.db.dmMessages.has req.messageId = true) ∨
    (∃ earlier ∈ past, ∃ member ∈ req.members, member ≠ req.sender ∧
      earlier.before.db.isDmBlocked member req.sender = true) ∨
    ∃ row, row.id = req.messageId ∧ ∃ store ∈ past, Stores row store

variable {now req}

theorem row_id_of_ok {E : Ed25519} {row : DmMessageRow} (h : req.row E codec = .ok row) :
    row.id = req.messageId := by
  unfold FederatedDmRequest.row at h
  cases henvelope : req.encryptedEnvelope with
  | none =>
      rw [henvelope] at h
      cases h
      rfl
  | some envelope =>
      rw [henvelope] at h
      obtain ⟨_, -, h⟩ := except_bind_eq_ok_iff.mp h
      obtain ⟨text, -, h⟩ := except_bind_eq_ok_iff.mp h
      cases h
      rfl

/-- Whatever is done about the conversation, nothing is announced. -/
theorem adoptConversation_follows (hsilent : ∀ earlier ∈ past, Silent earlier) :
    (adoptConversation req).Follows (ReceiveSent req)
      (fun _ past' => ∀ earlier ∈ past', Silent earlier) past := by
  apply follows_execute_bind
  · exact fun s => .conversation rfl
  intro s _ _
  apply Prog.follows_each_inv (fun _ past' => ∀ earlier ∈ past', Silent earlier)
  · exact silent_snoc hsilent (silent_executed s)
  · intro key _ past' _ hsilent'
    apply follows_write_bind
    · exact fun t => .stub key rfl
    intro t
    apply follows_execute
    · exact fun u => .member key rfl
    · exact fun u _ _ => silent_snoc (silent_snoc hsilent' (silent_written t)) (silent_executed u)

theorem storeReceived_follows (E : Ed25519) (hsilent : ∀ earlier ∈ past, Silent earlier) :
    (storeReceived E codec now req).Follows (ReceiveSent req)
      (fun _ => ReceiveDone req) past := by
  apply follows_write_bind
  · exact fun s => .stub req.sender rfl
  intro s
  apply Prog.follows_ofExcept_bind
  intro row hrow
  have hid := row_id_of_ok hrow
  apply follows_execute_bind
  · exact fun t => .store row hid rfl
  intro t db hdb
  apply follows_fetch_bind
  · exact fun u => .aside (dmAside_id u)
  intro u
  have hstored : ∃ store ∈ past ++ [⟨written (insertUserOrIgnore req.sender req.createdAt), s⟩] ++
      [⟨executed (insertDmMessage row), t⟩] ++ [⟨id, u⟩], Stores row store :=
    ⟨⟨executed (insertDmMessage row), t⟩, by simp, rfl, db, hdb⟩
  apply Prog.follows_exec_bind
  · refine fun v => .announce row _ hid hstored ?_ rfl
    exact silent_snoc (silent_snoc (silent_snoc hsilent (silent_written s)) (silent_executed t)) rfl
  · intro v
    obtain ⟨store, hstore, hstores⟩ := hstored
    exact Prog.follows_ret (.inr (.inr ⟨row, hid, store, List.mem_append_left _ hstore, hstores⟩))

/-- What `receive_federated_dm` sends, and what it has seen when it returns. -/
theorem receiveFederatedDm_follows (E : Ed25519) :
    (receiveFederatedDm E codec now req).Follows (ReceiveSent req) (fun _ => ReceiveDone req)
      [] := by
  apply follows_fetch_bind
  · exact fun s => .aside (dmAside_id s)
  intro s
  split_ifs with hpresent
  · exact Prog.follows_ret (.inl ⟨⟨id, s⟩, by simp, hpresent⟩)
  apply (isBlockedBy_follows req.sender fun past' t _ => .aside (dmAside_id t)).bind
  rintro blocked past' _ ⟨⟨since, rfl, hsince⟩, hread⟩
  have hsilent : ∀ earlier ∈ [] ++ [⟨id, s⟩] ++ since, Silent earlier := by
    intro earlier hearlier
    rcases List.mem_append.mp hearlier with hearlier | hearlier
    · rw [List.mem_singleton.mp hearlier]
      rfl
    · rw [Silent, Sent.after, hsince earlier hearlier]
      rfl
  split_ifs with hblocked
  · exact Prog.follows_ret (.inr (.inl (hread hblocked)))
  apply follows_fetch_bind
  · exact fun t => .aside (dmAside_id t)
  intro t
  have hsilent' := silent_snoc hsilent (dmAside_id t).silent
  apply Prog.Follows.bind
  · apply Prog.follows_when
    · exact fun _ => adoptConversation_follows hsilent'
    · exact fun _ => hsilent'
  · exact fun _ past'' _ hsilent'' => storeReceived_follows E hsilent''

end Receive

end Voxply.Hub
