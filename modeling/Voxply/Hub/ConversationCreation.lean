/-
# Creating a conversation as a whole

`create_conversation` inserts the conversation, then its creator, then the listed members, one
statement each.  The members of a conversation are a set for the store: a key that is listed
twice, or the creator's own, is refused when the conversation and the members before it are
there already.
-/

import Voxply.Hub.DmPairs
import Voxply.Math.Atomic
import Voxply.Math.ForeignKey

namespace Voxply.Hub

open Voxply.Math

/-! ## What a creation is to do -/

/-- The conversations and their members are as they were. -/
structure SameConversations (s t : AppState) : Prop where
  conversations : t.db.conversations = s.db.conversations
  members : t.db.conversationMembers = s.db.conversationMembers

theorem SameConversations.refl (s : AppState) : SameConversations s s :=
  ⟨rfl, rfl⟩

/-- The conversation that is answered is the caller's with the listed members.  If it is new,
each of them has the hub that the request names, and the caller is local; otherwise nothing
has changed. -/
structure Assembled (user : String) (req : CreateConversationRequest) (s : AppState)
    (answer : StatusCode × ConversationResponse) (t : AppState) : Prop where
  conversation : t.db.conversations.find? answer.2.id =
    some ⟨answer.2.id, answer.2.convType, answer.2.createdAt⟩
  members : ∀ key, t.db.conversationMembers.has (answer.2.id, key) = true ↔
    key ∈ user :: req.members
  hubs : answer.1 = .created → ∀ row ∈ t.db.membersOf answer.2.id,
    row.hubUrl = if row.publicKey = user then none else req.memberHubs.lookup row.publicKey
  existing : answer.1 = .ok → SameConversations s t

/-- Every request that names a member succeeds, with the conversation it asks for; one that
fails changes nothing. -/
structure CreatesWhole (id : String) (now : Int) (user : String) (req : CreateConversationRequest)
    (s : AppState) : Prop where
  whole : (createConversation id now user req).AllOrNothing
    (SameConversations s) (Assembled user req s) s
  succeeds : req.members ≠ [] → (createConversation id now user req).Succeeds s

/-! ## Looking for a conversation of two -/

section Lookup

variable {db : Db} {s : AppState} {convId userA userB : String}

theorem mem_keys_membersOf {key : String} :
    key ∈ (db.membersOf convId).map (·.publicKey) ↔
      db.conversationMembers.has (convId, key) = true := by
  rw [← mem_memberKeys, memberKeys, Db.loadMembers, List.map_map]
  exact Iff.rfl

theorem of_mem_sharedDms (h : convId ∈ db.sharedDms userA userB) :
    db.conversationMembers.has (convId, userA) = true ∧
      db.conversationMembers.has (convId, userB) = true ∧ db.conversations.has convId = true := by
  obtain ⟨row, hrow, rfl⟩ := List.mem_map.mp h
  obtain ⟨hmem, hshared⟩ := List.mem_filter.mp hrow
  rw [decide_eq_true_eq] at hshared
  obtain ⟨huser, hb, hconv⟩ := hshared
  refine ⟨Table.has_iff.mpr ⟨row, hmem, congrArg (Prod.mk _) huser⟩, hb, ?_⟩
  obtain ⟨conv, hfind, -⟩ := Option.map_eq_some_iff.mp hconv
  exact Table.has_of_find? hfind

/-- The two members of a conversation of two. -/
theorem has_iff_of_pair {a b : String} (hne : a ≠ b)
    (ha : db.conversationMembers.has (convId, a) = true)
    (hb : db.conversationMembers.has (convId, b) = true)
    (htwo : (db.membersOf convId).length = 2) (key : String) :
    db.conversationMembers.has (convId, key) = true ↔ key ∈ [a, b] := by
  have hsub : [a, b] ⊆ (db.membersOf convId).map (·.publicKey) := by
    intro other hother
    rw [mem_keys_membersOf]
    rcases List.mem_cons.mp hother with rfl | hother
    · exact ha
    · rwa [List.mem_singleton.mp hother]
  have hperm : [a, b].Perm ((db.membersOf convId).map (·.publicKey)) := by
    apply (List.subperm_of_subset (by simpa using hne) hsub).perm_of_length_le
    rw [List.length_map, htwo]
    rfl
  rw [← mem_keys_membersOf, hperm.mem_iff]

/-- A conversation of two has somebody else in it. -/
theorem exists_other_of_pair (htwo : (db.membersOf convId).length = 2) (user : String) :
    ∃ key, key ≠ user ∧ db.conversationMembers.has (convId, key) = true := by
  by_contra hnone
  push Not at hnone
  have hsub : (db.membersOf convId).map (·.publicKey) ⊆ [user] := by
    intro key hkey
    rw [List.mem_singleton]
    by_contra hne
    exact hnone key hne (mem_keys_membersOf.mp hkey)
  have hlength := (List.subperm_of_subset (nodup_membersOf db convId) hsub).length_le
  rw [List.length_map, htwo] at hlength
  exact Nat.not_succ_le_self 1 hlength

/-- The conversation that the loop finds is a conversation of two in the list. -/
theorem run_firstPair {convs : List String} (h : ∀ c ∈ convs, s.db.conversations.has c = true) :
    ∃ found, (firstPair userA userB convs).run s = (.ok found, s) ∧
      ∀ conv ∈ found, conv.id ∈ convs ∧ (s.db.membersOf conv.id).length = 2 ∧
        s.db.conversations.find? conv.id = some ⟨conv.id, conv.convType, conv.createdAt⟩ := by
  induction convs with
  | nil => exact ⟨none, rfl, fun conv hconv => by cases hconv⟩
  | cons convId rest ih =>
      rw [firstPair, Prog.run_bind_of_ok (run_fetch _ s)]
      split_ifs with htwo
      · obtain ⟨row, hrow⟩ := Table.exists_find?_of_has (h convId List.mem_cons_self)
        have hid : row.id = convId := (Table.find?_eq_some_iff.mp hrow).2
        rw [Prog.run_bind_of_ok (run_fetch _ s), hrow]
        refine ⟨_, rfl, ?_⟩
        intro conv hconv
        cases hconv
        rw [hid]
        refine ⟨List.mem_cons_self, htwo, ?_⟩
        rw [hrow, ← hid]
      · obtain ⟨found, hrun, hfound⟩ := ih fun c hc => h c (List.mem_cons_of_mem convId hc)
        refine ⟨found, hrun, ?_⟩
        intro conv hconv
        obtain ⟨hmem, hrest⟩ := hfound conv hconv
        exact ⟨List.mem_cons_of_mem convId hmem, hrest⟩

theorem run_findExistingDm (userA userB : String) (s : AppState) :
    ∃ found, (findExistingDm userA userB).run s = (.ok found, s) ∧
      ∀ conv ∈ found, conv.id ∈ s.db.sharedDms userA userB ∧
        (s.db.membersOf conv.id).length = 2 ∧
        s.db.conversations.find? conv.id = some ⟨conv.id, conv.convType, conv.createdAt⟩ := by
  rw [findExistingDm, Prog.run_bind_of_ok (run_fetch _ s)]
  exact run_firstPair fun c hc => (of_mem_sharedDms hc).2.2

/-- What the lookup finds is an answer to the request, unless it asks for a conversation with
oneself. -/
theorem run_lookupPair (user : String) (req : CreateConversationRequest) (s : AppState) :
    ∃ found, (lookupPair user req.members).run s = (.ok found, s) ∧
      ∀ conv ∈ found, Assembled user req s (.ok, conv) s ↔ (user :: req.members).Nodup := by
  rcases hmembers : req.members with _ | ⟨other, _ | ⟨second, rest⟩⟩
  · exact ⟨none, rfl, fun conv hconv => by cases hconv⟩
  · obtain ⟨found, hrun, hfound⟩ := run_findExistingDm user other s
    refine ⟨found, hrun, ?_⟩
    intro conv hconv
    obtain ⟨hshared, htwo, hfind⟩ := hfound conv hconv
    obtain ⟨huser, hother, -⟩ := of_mem_sharedDms hshared
    rw [List.nodup_cons, List.mem_singleton, and_iff_left (List.nodup_singleton other)]
    constructor
    · rintro hassembled rfl
      obtain ⟨key, hne, hkey⟩ := exists_other_of_pair htwo user
      have hlisted := (hassembled.members key).mp hkey
      rw [hmembers] at hlisted
      simp only [List.mem_cons, List.not_mem_nil, or_false, or_self] at hlisted
      exact hne hlisted
    · intro hne
      constructor
      · exact hfind
      · rw [hmembers]
        exact has_iff_of_pair hne huser hother htwo
      · intro hcreated
        cases hcreated
      · exact fun _ => .refl s
  · exact ⟨none, rfl, fun conv hconv => by cases hconv⟩

end Lookup

/-! ## Inserting the members -/

section Members

variable {s : AppState} {id : String} {now : Int} {hubs : List (String × String)}
  {members : List String}

/-- The rows of the listed members. -/
def memberRows (id : String) (now : Int) (hubs : List (String × String)) (members : List String) :
    List ConversationMemberRow :=
  members.map fun key => ⟨id, key, now, hubs.lookup key⟩

theorem has_users_insertUserOrIgnore (key : String) (now : Int) (db : Db) :
    (insertUserOrIgnore key now db).users.has key = true := by
  show (db.users.insertOrIgnore { publicKey := key, firstSeenAt := now, lastSeenAt := now }).has
    key = true
  rw [Table.has_insertOrIgnore]
  simp

/-- A member that is new in the conversation is inserted, with a stub of a user. -/
theorem run_addMember_of_new (now : Int) (hubs : List (String × String)) {key : String}
    (hconv : s.db.conversations.has id = true)
    (hnew : s.db.conversationMembers.has (id, key) = false) :
    ∃ t, (addMember id now hubs key).run s = (.ok ⟨⟩, t) ∧
      t.db.conversations = s.db.conversations ∧
      t.db.conversationMembers.rows =
        s.db.conversationMembers.rows ++ [⟨id, key, now, hubs.lookup key⟩] := by
  obtain ⟨table, hinsert, hrows⟩ := Table.insert?_of_free
    (show s.db.conversationMembers.has (ConversationMemberRow.key ⟨id, key, now, hubs.lookup key⟩) =
    false
      from hnew)
  refine ⟨(s.withDb (insertUserOrIgnore key now s.db)).withDb
    { insertUserOrIgnore key now s.db with conversationMembers := table }, ?_, rfl, hrows⟩
  rw [addMember, ensureUserStub, Prog.run_bind_of_ok (run_write _ s)]
  apply run_execute_of_ok
  rw [insertMember, show (s.withDb (insertUserOrIgnore key now s.db)).db.conversationMembers =
    s.db.conversationMembers from rfl, hinsert]
  exact if_pos ⟨hconv, has_users_insertUserOrIgnore key now s.db⟩

/-- A member that is there already is refused. -/
theorem run_addMember_of_old (now : Int) (hubs : List (String × String)) {key : String}
    (hold : s.db.conversationMembers.has (id, key) = true) :
    ∃ e t, (addMember id now hubs key).run s = (.error e, t) ∧
      t.db.conversations = s.db.conversations := by
  have htaken : s.db.conversationMembers.insert? ⟨id, key, now, hubs.lookup key⟩ = none := by
    rw [Table.insert?_eq_none_iff, ← Table.has_iff]
    exact hold
  refine ⟨dbError (.primaryKey
    "conversation_members.conversation_id, conversation_members.public_key"),
    s.withDb (insertUserOrIgnore key now s.db), ?_, rfl⟩
  rw [addMember, ensureUserStub, Prog.run_bind_of_ok (run_write _ s)]
  apply run_execute_of_error
  rw [insertMember, show (s.withDb (insertUserOrIgnore key now s.db)).db.conversationMembers =
    s.db.conversationMembers from rfl, htaken]

/-- Members that are new and listed once are all inserted. -/
theorem run_addMembers_of_nodup (now : Int) (hubs : List (String × String))
    (hconv : s.db.conversations.has id = true) (hnodup : members.Nodup)
    (hnew : ∀ key ∈ members, s.db.conversationMembers.has (id, key) = false) :
    ∃ t, (Prog.each members (addMember id now hubs)).run s = (.ok ⟨⟩, t) ∧
      t.db.conversations = s.db.conversations ∧
      t.db.conversationMembers.rows =
        s.db.conversationMembers.rows ++ memberRows id now hubs members := by
  induction members generalizing s with
  | nil => exact ⟨s, rfl, rfl, (List.append_nil _).symm⟩
  | cons key rest ih =>
      rw [List.nodup_cons] at hnodup
      obtain ⟨u, hfirst, hconvs, hrows⟩ := run_addMember_of_new now hubs hconv
        (hnew key List.mem_cons_self)
      have hrest : ∀ other ∈ rest, u.db.conversationMembers.has (id, other) = false := by
        intro other hother
        rw [Table.has_eq_false_iff, hrows]
        intro row hrow
        rcases List.mem_append.mp hrow with hrow | hrow
        · exact Table.has_eq_false_iff.mp (hnew other (List.mem_cons_of_mem key hother)) row hrow
        · rw [List.mem_singleton.mp hrow]
          rintro ⟨⟩
          exact hnodup.1 hother
      obtain ⟨t, hrun, hconvs', hrows'⟩ := ih (hconvs ▸ hconv) hnodup.2 hrest
      refine ⟨t, ?_, hconvs'.trans hconvs, ?_⟩
      · rw [Prog.run_each_cons, Prog.run_bind_of_ok hfirst]
        exact hrun
      · rw [hrows', hrows, List.append_assoc]
        rfl

/-- Otherwise the first one that is there already is refused. -/
theorem run_addMembers_of_repeated (now : Int) (hubs : List (String × String)) {user : String}
    (hconv : s.db.conversations.has id = true) (hrepeated : ¬ (user :: members).Nodup)
    (hmembers : ∀ key, s.db.conversationMembers.has (id, key) = true ↔ key = user) :
    ∃ e t, (Prog.each members (addMember id now hubs)).run s = (.error e, t) ∧
      t.db.conversations = s.db.conversations := by
  obtain ⟨before, key, rest, heq, hbefore, hagain⟩ := exists_first_repeated hrepeated
  cases before with
  | nil => exact absurd hagain List.not_mem_nil
  | cons creator first =>
      obtain ⟨rfl, rfl⟩ := List.cons.inj heq
      rw [List.nodup_cons] at hbefore
      have hnew : ∀ other ∈ first, s.db.conversationMembers.has (id, other) = false := by
        intro other hother
        rw [Bool.eq_false_iff, ne_eq, hmembers]
        rintro rfl
        exact hbefore.1 hother
      obtain ⟨u, hrun, hconvs, hrows⟩ := run_addMembers_of_nodup now hubs hconv
        hbefore.2 hnew
      have hold : u.db.conversationMembers.has (id, key) = true := by
        rw [Table.has_iff, hrows]
        rcases List.mem_cons.mp hagain with rfl | hfirst
        · obtain ⟨row, hrow, hkey⟩ := Table.has_iff.mp ((hmembers key).mpr rfl)
          exact ⟨row, List.mem_append_left _ hrow, hkey⟩
        · exact ⟨_, List.mem_append_right _ (List.mem_map_of_mem hfirst), rfl⟩
      obtain ⟨e, t, hrefused, hsame⟩ := run_addMember_of_old now hubs hold
      exact ⟨e, t, Prog.run_each_of_error hrun hrefused, hsame.trans hconvs⟩

end Members

/-! ## The handler -/

section Creation

variable {s : AppState} {id user : String} {now : Int} {req : CreateConversationRequest}

theorem insertConversation_of_free (row : ConversationRow)
    (hfresh : s.db.conversations.has row.id = false) :
    ∃ db, insertConversation row s.db = .ok db ∧ db.users = s.db.users ∧
      db.conversationMembers = s.db.conversationMembers ∧
      db.conversations.rows = s.db.conversations.rows ++ [row] := by
  obtain ⟨table, hinsert, hrows⟩ := Table.insert?_of_free hfresh
  refine ⟨{ s.db with conversations := table }, ?_, rfl, rfl, hrows⟩
  rw [insertConversation, hinsert]

/-- The creator of a new conversation is its first member. -/
theorem insertMember_of_free (row : ConversationMemberRow)
    (hconv : s.db.conversations.has row.conversationId = true)
    (huser : s.db.users.has row.publicKey = true)
    (hfree : s.db.conversationMembers.has row.key = false) :
    ∃ db, insertMember row s.db = .ok db ∧ db.conversations = s.db.conversations ∧
      db.conversationMembers.rows = s.db.conversationMembers.rows ++ [row] := by
  obtain ⟨table, hinsert, hrows⟩ := Table.insert?_of_free hfree
  refine ⟨{ s.db with conversationMembers := table }, ?_, rfl, hrows⟩
  rw [insertMember, hinsert]
  exact if_pos ⟨hconv, huser⟩

/-- A conversation with its creator has been inserted. -/
structure Opened (id : String) (now : Int) (user : String) (members : List String)
    (s t : AppState) : Prop where
  conversations : t.db.conversations.rows =
    s.db.conversations.rows ++ [⟨id, newConvType members, now⟩]
  members : t.db.conversationMembers.rows = s.db.conversationMembers.rows ++ [⟨id, user, now, none⟩]

/-- The first two statements are not refused. -/
theorem exists_opened (now : Int) (hcaller : s.db.users.has user = true)
    (hfresh : s.db.conversations.has id = false)
    (hmembers : ∀ row ∈ s.db.conversationMembers.rows, row.conversationId ≠ id)
    (members : List String) :
    ∃ u v, (execute (insertConversation ⟨id, newConvType members, now⟩)).run s = (.ok ⟨⟩, u) ∧
      (execute (insertMember ⟨id, user, now, none⟩)).run u = (.ok ⟨⟩, v) ∧
      Opened id now user members s v := by
  obtain ⟨db, hconv, husers, hsame, hrows⟩ :=
    insertConversation_of_free ⟨id, newConvType members, now⟩ hfresh
  have hpresent : (s.withDb db).db.conversations.has id = true := by
    rw [Table.has_iff, withDb_db, hrows]
    exact ⟨_, List.mem_concat_self, rfl⟩
  have hfree : (s.withDb db).db.conversationMembers.has (id, user) = false := by
    rw [Table.has_eq_false_iff, withDb_db, hsame]
    exact fun row hrow hkey => hmembers row hrow (congrArg Prod.fst hkey)
  obtain ⟨db', hmember, hconvs, hrows'⟩ :=
    insertMember_of_free (s := s.withDb db) ⟨id, user, now, none⟩
    hpresent (by rw [withDb_db, husers]; exact hcaller) hfree
  refine ⟨s.withDb db, (s.withDb db).withDb db', run_execute_of_ok hconv, run_execute_of_ok hmember,
    ?_, ?_⟩
  · rw [withDb_db, hconvs, withDb_db, hrows]
  · rw [withDb_db, hrows', withDb_db, hsame]

theorem Opened.has_conversation {members : List String} {t : AppState}
    (h : Opened id now user members s t) : t.db.conversations.has id = true := by
  rw [Table.has_iff, h.conversations]
  exact ⟨_, List.mem_concat_self, rfl⟩

theorem Opened.has_member_iff {members : List String} {t : AppState}
    (h : Opened id now user members s t)
    (hmembers : ∀ row ∈ s.db.conversationMembers.rows, row.conversationId ≠ id) (key : String) :
    t.db.conversationMembers.has (id, key) = true ↔ key = user := by
  rw [Table.has_iff, h.members]
  constructor
  · rintro ⟨row, hrow, hkey⟩
    rcases List.mem_append.mp hrow with hrow | hrow
    · exact absurd (congrArg Prod.fst hkey) (hmembers row hrow)
    · rw [List.mem_singleton.mp hrow] at hkey
      exact (congrArg Prod.snd hkey).symm
  · rintro rfl
    exact ⟨_, List.mem_concat_self, rfl⟩

/-- The members are those of the request and the caller, each with the hub that the request
names. -/
theorem Opened.assembled {t v : AppState} (h : Opened id now user req.members s v)
    (hmembers : ∀ row ∈ s.db.conversationMembers.rows, row.conversationId ≠ id)
    (hnodup : (user :: req.members).Nodup) (hconvs : t.db.conversations = v.db.conversations)
    (hrows : t.db.conversationMembers.rows =
      v.db.conversationMembers.rows ++ memberRows id now req.memberHubs req.members) :
    Assembled user req s
      (.created, ⟨id, newConvType req.members, req.members ++ [user], now, now⟩) t := by
  have hmem : ∀ row, row ∈ t.db.membersOf id ↔
      row ∈ (⟨id, user, now, none⟩ : ConversationMemberRow) ::
        memberRows id now req.memberHubs req.members := by
    intro row
    have hall : row.conversationId = id →
        (row ∈ t.db.conversationMembers.rows ↔
          row ∈ (⟨id, user, now, none⟩ : ConversationMemberRow) ::
            memberRows id now req.memberHubs req.members) := by
      intro hid
      have hold : row ∉ s.db.conversationMembers.rows := fun hrow => hmembers row hrow hid
      rw [hrows, h.members, List.append_assoc, List.mem_append, or_iff_right hold]
      exact Iff.rfl
    rw [Db.membersOf, List.mem_filter, decide_eq_true_eq]
    constructor
    · rintro ⟨hrow, hid⟩
      exact (hall hid).mp hrow
    · intro hrow
      have hid : row.conversationId = id := by
        rcases List.mem_cons.mp hrow with rfl | hlisted
        · rfl
        · obtain ⟨key, -, rfl⟩ := List.mem_map.mp hlisted
          rfl
      exact ⟨(hall hid).mpr hrow, hid⟩
  constructor
  · rw [Table.find?_eq_some_iff, hconvs, h.conversations]
    exact ⟨List.mem_concat_self, rfl⟩
  · intro key
    rw [← mem_keys_membersOf, List.mem_map, List.mem_cons]
    constructor
    · rintro ⟨row, hrow, rfl⟩
      rcases List.mem_cons.mp ((hmem row).mp hrow) with rfl | hlisted
      · exact .inl rfl
      · obtain ⟨key, hkey, rfl⟩ := List.mem_map.mp hlisted
        exact .inr hkey
    · rintro (rfl | hkey)
      · exact ⟨_, (hmem _).mpr List.mem_cons_self, rfl⟩
      · exact ⟨_, (hmem _).mpr (List.mem_cons_of_mem _ (List.mem_map_of_mem hkey)), rfl⟩
  · intro _ row hrow
    rcases List.mem_cons.mp ((hmem row).mp hrow) with rfl | hlisted
    · exact (if_pos rfl).symm
    · obtain ⟨key, hkey, rfl⟩ := List.mem_map.mp hlisted
      have hne : key ≠ user := by
        rintro rfl
        exact (List.nodup_cons.mp hnodup).1 hkey
      exact (if_neg hne).symm
  · intro hok
    cases hok

/-- A conversation is created as a whole exactly if no member is listed twice and the caller is
not listed. -/
theorem createsWhole_iff (hcaller : s.db.users.has user = true)
    (hkeys : s.db.conversationMembers.Refers (fun row => some row.conversationId)
      s.db.conversations)
    (hfresh : s.db.conversations.has id = false) :
    CreatesWhole id now user req s ↔ (user :: req.members).Nodup := by
  have hmembers : ∀ row ∈ s.db.conversationMembers.rows, row.conversationId ≠ id := by
    rintro row hrow rfl
    rw [hkeys row hrow row.conversationId rfl] at hfresh
    cases hfresh
  by_cases hempty : req.members = []
  · have hrun : (createConversation id now user req).run s =
        (.error ⟨.badRequest, "Need at least one other member"⟩, s) :=
      Prog.run_bind_of_error (Prog.run_ensure_of_neg (not_not_intro hempty) _ s)
    rw [hempty]
    refine iff_of_true ⟨?_, fun h => absurd hempty h⟩ (List.nodup_singleton user)
    rw [Prog.allOrNothing_iff_of_error hrun]
    exact .refl s
  have hfirst : (createConversation id now user req).run s =
      (lookupPair user req.members >>= _).run s :=
    Prog.run_bind_of_ok (Prog.run_ensure_of_pos hempty _ s)
  obtain ⟨found, hlookup, hfound⟩ := run_lookupPair user req s
  rw [Prog.run_bind_of_ok hlookup] at hfirst
  cases found with
  | some conv =>
      have hrun : (createConversation id now user req).run s = (.ok (.ok, conv), s) := hfirst
      rw [← hfound conv rfl]
      constructor
      · exact fun h => h.whole.returned _ _ hrun
      · intro hassembled
        refine ⟨?_, fun _ => ⟨_, congrArg Prod.fst hrun⟩⟩
        rw [Prog.allOrNothing_iff_of_ok hrun]
        exact hassembled
  | none =>
      obtain ⟨u, v, hconv, hcreator, hopened⟩ := exists_opened now hcaller hfresh hmembers
        req.members
      dsimp only at hfirst
      rw [Prog.run_bind_of_ok hconv, Prog.run_bind_of_ok hcreator] at hfirst
      by_cases hnodup : (user :: req.members).Nodup
      · have hnew : ∀ key ∈ req.members, v.db.conversationMembers.has (id, key) = false := by
          intro key hkey
          rw [Bool.eq_false_iff, ne_eq, hopened.has_member_iff hmembers]
          rintro rfl
          exact (List.nodup_cons.mp hnodup).1 hkey
        obtain ⟨t, hloop, hconvs, hrows⟩ := run_addMembers_of_nodup now req.memberHubs
          hopened.has_conversation (List.nodup_cons.mp hnodup).2 hnew
        rw [Prog.run_bind_of_ok hloop, Prog.run_pure] at hfirst
        refine iff_of_true ⟨?_, fun _ => ⟨_, congrArg Prod.fst hfirst⟩⟩ hnodup
        rw [Prog.allOrNothing_iff_of_ok hfirst]
        exact hopened.assembled hmembers hnodup hconvs hrows
      · obtain ⟨e, t, hloop, hconvs⟩ := run_addMembers_of_repeated now req.memberHubs
          hopened.has_conversation hnodup (hopened.has_member_iff hmembers)
        rw [Prog.run_bind_of_error hloop] at hfirst
        refine iff_of_false ?_ hnodup
        intro h
        have hthere := hopened.has_conversation
        rw [← hconvs, (h.whole.failed e t hfirst).conversations, hfresh] at hthere
        cases hthere

end Creation

/-! ## A member listed twice -/

/-- A hub with one user and no conversation. -/
def oneUserHub : AppState where
  db := { users := ⟨[{ publicKey := "a", firstSeenAt := 1, lastSeenAt := 1 }], by decide⟩ }

/-- A group of three is created. -/
theorem group_createsWhole :
    CreatesWhole "g" 5 "a" ⟨["b", "c"], [("c", "https://hub.c")]⟩ oneUserHub :=
  (createsWhole_iff (by decide) (by decide) (by decide)).mpr (by decide)

/-- The request fails, and a conversation with the caller and one other member is there. -/
theorem repeated_not_createsWhole : ¬ CreatesWhole "g" 5 "a" ⟨["b", "b"], []⟩ oneUserHub := by
  have hrun : ((createConversation "g" 5 "a" ⟨["b", "b"], []⟩).run oneUserHub).1.isOk = false ∧
      ((createConversation "g" 5 "a" ⟨["b", "b"], []⟩).run oneUserHub).2.db.conversations.has "g" =
      true := by
    decide +kernel
  intro h
  rcases hanswer : (createConversation "g" 5 "a" ⟨["b", "b"], []⟩).run
    oneUserHub with ⟨e | answer, t⟩
  · rw [hanswer] at hrun
    have hthere := hrun.2
    rw [(h.whole.failed e t hanswer).conversations] at hthere
    cases hthere
  · rw [hanswer] at hrun
    cases hrun.1

end Voxply.Hub
