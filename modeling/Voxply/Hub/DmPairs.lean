/-
# One conversation for two

`create_conversation` looks for a conversation of the two before it creates one,
and then inserts the conversation and each member by a statement of its own.
The lookup only finds conversations that are complete.  As long as requests for
the same two members do not overlap, there is never more than one; when both
open the thread at the same time, each may end up with their own.
-/

import Voxply.Hub.DmEnvelopes
import Voxply.Math.ForeignKey

namespace Voxply.Hub

open Voxply.Math Voxply.Identity

variable {lib : Crates} {codec : DmCodec} {s t : AppState} {history : DmHistory}
  {e : Event DmRequest AppState}

/-! ## Pairs -/

/-- A conversation of type `dm` with exactly these two members. -/
def Db.IsPair (db : Db) (convId a b : String) : Prop :=
  db.convType? convId = some "dm" ∧ db.conversationMembers.has (convId, a) = true ∧
    db.conversationMembers.has (convId, b) = true ∧
    ∀ row ∈ db.membersOf convId, row.publicKey = a ∨ row.publicKey = b

instance (db : Db) (convId a b : String) : Decidable (db.IsPair convId a b) :=
  inferInstanceAs (Decidable (_ ∧ _ ∧ _ ∧ _))

/-- No two members have two conversations. -/
def Db.OnePair (db : Db) : Prop :=
  ∀ a b, a ≠ b → ∀ first second, db.IsPair first a b → db.IsPair second a b → first = second

/-- The members of a conversation are members of one that exists. -/
def Db.MembersFiled (db : Db) : Prop :=
  ∀ row ∈ db.conversationMembers.rows, db.conversations.has row.conversationId = true

/-- A request to open a conversation of two. -/
def DmRequest.Opens (a b : String) : DmRequest → Prop
  | .create _ _ user req =>
      ∃ other, req.members = [other] ∧ ((user = a ∧ other = b) ∨ (user = b ∧ other = a))
  | _ => False

def DmRequest.IsCreate : DmRequest → Prop
  | .create .. => True
  | _ => False

/-- Requests for the same two members do not overlap: between two statements of
one there is none of another. -/
def Apart (history : DmHistory) : Prop :=
  ∀ pre e post, history = pre ++ e :: post → ∀ earlier ∈ pre, ∀ later ∈ post,
    earlier.job = later.job → earlier.job ≠ e.job →
    ∀ a b, earlier.request.Opens a b → ¬ e.request.Opens a b

theorem DmRequest.IsCreate.eq_create {request : DmRequest} (h : request.IsCreate) :
    ∃ newId now user req, request = .create newId now user req := by
  cases request with
  | create newId now user req => exact ⟨newId, now, user, req, rfl⟩
  | send => exact h.elim
  | receive => exact h.elim
  | worker => exact h.elim

theorem nodup_membersOf (db : Db) (convId : String) :
    ((db.membersOf convId).map (·.publicKey)).Nodup :=
  db.conversationMembers.nodup_second convId

theorem length_membersOf {db : Db} {convId a b : String} (hne : a ≠ b)
    (ha : db.conversationMembers.has (convId, a) = true)
    (hb : db.conversationMembers.has (convId, b) = true)
    (honly : ∀ row ∈ db.membersOf convId, row.publicKey = a ∨ row.publicKey = b) :
    (db.membersOf convId).length = 2 := by
  have hmem : ∀ key, key ∈ (db.membersOf convId).map (·.publicKey) ↔ key ∈ [a, b] := by
    intro key
    constructor
    · intro hkey
      obtain ⟨row, hrow, rfl⟩ := List.mem_map.mp hkey
      simpa using honly row hrow
    · intro hkey
      have hhas : db.conversationMembers.has (convId, key) = true := by
        rcases List.mem_cons.mp hkey with rfl | hkey
        · exact ha
        · rwa [List.mem_singleton.mp hkey]
      rwa [← mem_memberKeys, memberKeys, Db.loadMembers, List.map_map] at hhas
  have hperm : ((db.membersOf convId).map (·.publicKey)).Perm [a, b] :=
    (List.perm_ext_iff_of_nodup (nodup_membersOf db convId) (by simp [hne])).mpr hmem
  rw [← List.length_map (·.publicKey), hperm.length_eq]
  rfl

theorem mem_sharedDms {db : Db} {convId userA userB : String}
    (ha : db.conversationMembers.has (convId, userA) = true)
    (hb : db.conversationMembers.has (convId, userB) = true)
    (hconv : db.convType? convId = some "dm") : convId ∈ db.sharedDms userA userB := by
  obtain ⟨row, hrow, hkey⟩ := Table.has_iff.mp ha
  obtain ⟨rfl, rfl⟩ := Prod.mk.inj hkey
  apply List.mem_map.mpr
  refine ⟨row, List.mem_filter.mpr ⟨hrow, ?_⟩, rfl⟩
  rw [decide_eq_true_eq]
  exact ⟨rfl, hb, hconv⟩

theorem DmGrows.has {db db' : Db} (h : DmGrows db db') {key : String × String}
    (hkey : db.conversationMembers.has key = true) : db'.conversationMembers.has key = true := by
  obtain ⟨row, hrow, heq⟩ := Table.has_iff.mp hkey
  exact Table.has_iff.mpr ⟨row, h.conversationMembers row hrow, heq⟩

/-! ## Where conversations come from -/

theorem Creates.mem {row : ConversationRow} {sent : Sent AppState} (h : Creates row sent) :
    row ∈ sent.after.db.conversations.rows := by
  obtain ⟨hstatement, db, hdb⟩ := h
  obtain ⟨-, hrows, -⟩ := insertConversation_eq_ok hdb
  rw [Sent.after, hstatement, executed_of_ok hdb, withDb_db, hrows]
  exact List.mem_concat_self

theorem Creates.free {row : ConversationRow} {sent : Sent AppState} (h : Creates row sent) :
    ∀ old ∈ sent.before.db.conversations.rows, old.id ≠ row.id := by
  obtain ⟨-, db, hdb⟩ := h
  exact (insertConversation_eq_ok hdb).1

/-- The statement by which a member joins a conversation. -/
theorem CreateSent.joins {newId : String} {now : Int} {user : String}
    {req : CreateConversationRequest} {past : List (Sent AppState)} {sent : Sent AppState}
    (h : CreateSent newId now user req past sent) {row : ConversationMemberRow}
    (hbefore : row ∉ sent.before.db.conversationMembers.rows)
    (hafter : row ∈ sent.after.db.conversationMembers.rows) :
    row.conversationId = newId ∧ row.publicKey ∈ user :: req.members ∧
      FoundNoPair user req.members past ∧
      Created ⟨newId, newConvType req.members, now⟩ past := by
  have hnone (hsame : sent.after.db.conversationMembers = sent.before.db.conversationMembers) :
      False := hbefore (hsame ▸ hafter)
  cases h with
  | aside h => exact (hnone h.conversationMembers).elim
  | stub key h => exact (hnone (by rw [Sent.after, h]; rfl)).elim
  | conversation _ h =>
      apply (hnone _).elim
      apply kept_executed Db.conversationMembers h
      intro db hdb
      rw [(insertConversation_eq_ok hdb).2.2]
  | member key hubUrl hkey hlookup hcreated h =>
      rw [Sent.after, h] at hafter
      rcases executed_cases (insertMember ⟨newId, key, now, hubUrl⟩) sent.before with
        heq | ⟨db, hdb, heq⟩
      · rw [heq] at hafter
        exact (hbefore hafter).elim
      · rw [heq, withDb_db, (insertMember_eq_ok hdb).2.1] at hafter
        rcases List.mem_append.mp hafter with hafter | hafter
        · exact (hbefore hafter).elim
        · rw [List.mem_singleton.mp hafter]
          exact ⟨rfl, hkey, hlookup, hcreated⟩

/-- A key that is new in a table belongs to a new row. -/
theorem exists_new_member {db db' : Db} {convId key : String}
    (hmissing : db.conversationMembers.has (convId, key) ≠ true)
    (hpresent : db'.conversationMembers.has (convId, key) = true) :
    ∃ row : ConversationMemberRow, row.conversationId = convId ∧
      row ∉ db.conversationMembers.rows ∧ row ∈ db'.conversationMembers.rows := by
  obtain ⟨row, hrow, hkey⟩ := Table.has_iff.mp hpresent
  refine ⟨row, (Prod.mk.inj hkey).1, fun hold => ?_, hrow⟩
  exact hmissing (Table.has_iff.mpr ⟨row, hold, hkey⟩)

theorem convType?_of_mem {db : Db} {row : ConversationRow} (h : row ∈ db.conversations.rows) :
    db.convType? row.id = some row.convType := by
  rw [Db.convType?, Table.find?_eq_some_iff.mpr ⟨h, rfl⟩]
  rfl

/-- Only a conversation with one other member is created as `dm`. -/
theorem singleton_of_newConvType {members : List String} (h : newConvType members = "dm") :
    ∃ other, members = [other] := by
  apply List.length_eq_one_iff.mp
  by_contra hlength
  rw [newConvType, if_neg hlength] at h
  exact absurd h (by decide)

/-- Two different members of a conversation of two are its creator and the
other. -/
theorem opens_of_named {newId user other a b : String} {now : Int}
    {req : CreateConversationRequest} (hother : req.members = [other]) (hne : a ≠ b)
    (ha : a = user ∨ a = other) (hb : b = user ∨ b = other) :
    (DmRequest.create newId now user req).Opens a b := by
  refine ⟨other, hother, ?_⟩
  rcases ha with rfl | rfl
  · exact .inl ⟨rfl, (hb.resolve_left hne.symm).symm⟩
  · exact .inr ⟨(hb.resolve_right hne.symm).symm, rfl⟩

section Origin

variable (hrun : Interleaving (DmRequest.Sends lib codec) s history t)

include hrun

/-- One statement at most creates a conversation. -/
theorem creates_unique {first second : Event DmRequest AppState} (hfirst : first ∈ history)
    (hsecond : second ∈ history) {row row' : ConversationRow} (hcreates : Creates row first.toSent)
    (hcreates' : Creates row' second.toSent) (hid : row.id = row'.id) : first = second := by
  by_contra hne
  obtain ⟨pre, post, hsplit⟩ := List.append_of_mem hfirst
  obtain ⟨pre', post', hsplit'⟩ := List.append_of_mem hsecond
  rcases mem_or_mem_of_split hsplit hsplit' hne with hmem | hmem
  · have hrow := (grows_since (hrun.split hsplit').1 hmem).conversations row hcreates.mem
    exact hcreates'.free row hrow hid
  · have hrow := (grows_since (hrun.split hsplit).1 hmem).conversations row' hcreates'.mem
    exact hcreates.free row' hrow hid.symm

/-- A job that has found no conversation of the two has not seen one. -/
theorem not_seen {convId a b : String} (hne : a ≠ b) (hpair : t.db.IsPair convId a b)
    {pre post : DmHistory} (hsplit : history = pre ++ e :: post) (hopens : e.request.Opens a b)
    {newId user : String} {now : Int} {req : CreateConversationRequest}
    (hrequest : e.request = .create newId now user req)
    (hlookup : FoundNoPair user req.members (sentBy e.job pre))
    (hseen : ∀ read ∈ pre, read.job = e.job →
      read.before.db.conversationMembers.has (convId, a) = true ∧
        read.before.db.conversationMembers.has (convId, b) = true ∧
        read.before.db.convType? convId = some "dm") : False := by
  rw [hrequest] at hopens
  obtain ⟨other, hother, hmembers⟩ := hopens
  obtain ⟨first, hfirst, hcount⟩ := hlookup other hother
  obtain ⟨firstEvent, hfirstEvent, hfirstJob, rfl⟩ := mem_sentBy.mp (List.mem_of_head? hfirst)
  obtain ⟨ha, hb, hconv⟩ := hseen firstEvent hfirstEvent hfirstJob
  have hshared : convId ∈ firstEvent.before.db.sharedDms user other := by
    rcases hmembers with ⟨rfl, rfl⟩ | ⟨rfl, rfl⟩
    · exact mem_sharedDms ha hb hconv
    · exact mem_sharedDms hb ha hconv
  obtain ⟨count, hmem, htwo⟩ := hcount convId hshared
  obtain ⟨countEvent, hcountEvent, hcountJob, rfl⟩ := mem_sentBy.mp hmem
  obtain ⟨ha', hb', -⟩ := hseen countEvent hcountEvent hcountJob
  -- Whoever was a member then is one now, so there were two.
  apply htwo
  apply length_membersOf hne ha' hb'
  intro row hrow
  have hcountMem : countEvent ∈ history := by
    rw [hsplit]
    exact List.mem_append_left _ hcountEvent
  obtain ⟨hrow, hconvId⟩ := List.mem_filter.mp hrow
  have hnow := (grows_now hrun hcountMem).conversationMembers row hrow
  exact hpair.2.2.2 row (List.mem_filter.mpr ⟨hnow, hconvId⟩)

variable (hcreate : ∀ e ∈ history, e.request.IsCreate)

include hcreate

/-- Where a member that was not there at first has come from. -/
theorem member_origin {pre post : DmHistory} (hsplit : history = pre ++ e :: post)
    {row : ConversationMemberRow} (hbefore : row ∉ e.before.db.conversationMembers.rows)
    (hafter : row ∈ e.after.db.conversationMembers.rows) :
    ∃ now user req, e.request = .create row.conversationId now user req ∧
      row.publicKey ∈ user :: req.members ∧ FoundNoPair user req.members (sentBy e.job pre) ∧
      ∃ creator ∈ pre, creator.job = e.job ∧
        Creates ⟨row.conversationId, newConvType req.members, now⟩ creator.toSent := by
  obtain ⟨-, hgood, -⟩ := hrun.split hsplit
  obtain ⟨newId, now, user, req, hrequest⟩ := (hcreate e (by rw [hsplit]; simp)).eq_create
  rw [hrequest] at hgood
  obtain ⟨rfl, hkey, hlookup, earlier, hearlier, hcreates⟩ := CreateSent.joins hgood hbefore hafter
  obtain ⟨creator, hcreator, hjob, rfl⟩ := mem_sentBy.mp hearlier
  exact ⟨now, user, req, hrequest, hkey, hlookup, creator, hcreator, hjob, hcreates⟩

/-- The members of a new conversation are those that its creator has named. -/
theorem member_named {row : ConversationMemberRow} (hrow : row ∈ t.db.conversationMembers.rows)
    (hnew : row ∉ s.db.conversationMembers.rows) {creator : Event DmRequest AppState}
    (hcreator : creator ∈ history) {conv : ConversationRow} (hconv : conv.id = row.conversationId)
    (hcreates : Creates conv creator.toSent) {newId user : String} {now : Int}
    {req : CreateConversationRequest} (hrequest : creator.request = .create newId now user req) :
    row.publicKey ∈ user :: req.members := by
  obtain ⟨pre, e, post, hsplit, hbefore, hafter⟩ := hrun.established
    (fun u => row ∈ u.db.conversationMembers.rows) hnew hrow
  obtain ⟨now', user', req', hrequest', hkey, -, creator', hcreator', hjob, hcreates'⟩ :=
    member_origin hrun hcreate hsplit hbefore hafter
  have hmem : creator' ∈ history := by
    rw [hsplit]
    exact List.mem_append_left _ hcreator'
  -- There is one creator, and it is the job that has entered the member.
  have hsame := creates_unique hrun hcreator hmem hcreates hcreates' hconv
  have he : e ∈ history := by
    rw [hsplit]
    simp
  have heq := hrun.request_eq hcreator he (by rw [hsame, hjob])
  rw [hrequest, hrequest'] at heq
  cases heq
  exact hkey

/-- A conversation is complete from some statement on. -/
theorem completed (hfiled : s.db.MembersFiled) {convId a b : String} (hne : a ≠ b)
    (hpair : t.db.IsPair convId a b) (hnew : s.db.conversations.has convId = false) :
    ∃ pre e post, history = pre ++ e :: post ∧ e.request.Opens a b ∧
      (∃ now user req, e.request = .create convId now user req ∧
        FoundNoPair user req.members (sentBy e.job pre)) ∧
      e.after.db.conversationMembers.has (convId, a) = true ∧
      e.after.db.conversationMembers.has (convId, b) = true ∧
      e.after.db.convType? convId = some "dm" := by
  obtain ⟨hdm, ha, hb, -⟩ := hpair
  have hnone : ∀ row ∈ s.db.conversationMembers.rows, row.conversationId ≠ convId := by
    rintro row hrow rfl
    rw [hfiled row hrow] at hnew
    cases hnew
  obtain ⟨pre, e, post, hsplit, hbefore, hafter⟩ := hrun.established
    (fun u => u.db.conversationMembers.has (convId, a) = true ∧
      u.db.conversationMembers.has (convId, b) = true)
    (fun h => by
      obtain ⟨row, hrow, hkey⟩ := Table.has_iff.mp h.1
      exact hnone row hrow (Prod.mk.inj hkey).1) ⟨ha, hb⟩
  -- The member who completes the conversation.
  obtain ⟨row, rfl, hrowBefore, hrowAfter⟩ : ∃ row : ConversationMemberRow,
      row.conversationId = convId ∧ row ∉ e.before.db.conversationMembers.rows ∧
        row ∈ e.after.db.conversationMembers.rows := by
    by_cases hmissing : e.before.db.conversationMembers.has (convId, a) = true
    · exact exists_new_member (fun h => hbefore ⟨hmissing, h⟩) hafter.2
    · exact exists_new_member hmissing hafter.1
  obtain ⟨now, user, req, hrequest, -, hlookup, creator, hcreator, hjob, hcreates⟩ :=
    member_origin hrun hcreate hsplit hrowBefore hrowAfter
  have hcreatorMem : creator ∈ history := by
    rw [hsplit]
    exact List.mem_append_left _ hcreator
  have heMem : e ∈ history := by
    rw [hsplit]
    simp
  -- It is of type `dm`, so there is one other member.
  have htype : newConvType req.members = "dm" := by
    have hnow := convType?_of_mem ((grows_since hrun hcreatorMem).conversations _ hcreates.mem)
    exact Option.some.inj (hnow.symm.trans hdm)
  obtain ⟨other, hother⟩ := singleton_of_newConvType htype
  have hcreatorRequest : creator.request = .create row.conversationId now user req := by
    rw [hrun.request_eq hcreatorMem heMem hjob, hrequest]
  have hnamed : ∀ key, t.db.conversationMembers.has (row.conversationId, key) = true →
      key = user ∨ key = other := by
    intro key hkey
    obtain ⟨member, hmember, heq⟩ := Table.has_iff.mp hkey
    obtain ⟨hconv, rfl⟩ := Prod.mk.inj heq
    have hmem := member_named hrun hcreate hmember (fun hold => hnone member hold hconv)
      hcreatorMem hconv.symm hcreates hcreatorRequest
    rw [hother] at hmem
    simpa using hmem
  refine ⟨pre, e, post, hsplit, ?_, ⟨now, user, req, hrequest, hlookup⟩, hafter.1, hafter.2, ?_⟩
  · rw [hrequest]
    exact opens_of_named hother hne (hnamed a ha) (hnamed b hb)
  · have hrowThen := (grows_since (hrun.split hsplit).1 hcreator).conversations _ hcreates.mem
    obtain ⟨past, hgood⟩ := hrun.good_of_mem heMem
    rw [convType?_of_mem (hgood.grows.conversations _ hrowThen), htype]

/-- A conversation that was there at first has its members from then. -/
theorem isPair_start {convId a b : String} (hpair : t.db.IsPair convId a b)
    (hold : s.db.conversations.has convId = true) : s.db.IsPair convId a b := by
  obtain ⟨hdm, ha, hb, honly⟩ := hpair
  obtain ⟨conv, hconv, rfl⟩ := Table.has_iff.mp hold
  have hthen : ∀ key, t.db.conversationMembers.has (conv.id, key) = true →
      s.db.conversationMembers.has (conv.id, key) = true := by
    intro key hkey
    obtain ⟨row, hrow, heq⟩ := Table.has_iff.mp hkey
    by_contra hmissing
    have hnew : row ∉ s.db.conversationMembers.rows := fun h =>
      hmissing (Table.has_iff.mpr ⟨row, h, heq⟩)
    obtain ⟨pre, e, post, hsplit, hbefore, hafter⟩ := hrun.established
      (fun u => row ∈ u.db.conversationMembers.rows) hnew hrow
    obtain ⟨now, user, req, -, -, -, creator, hcreator, -, hcreates⟩ :=
      member_origin hrun hcreate hsplit hbefore hafter
    -- Its creator would have found the identifier taken.
    obtain ⟨pre', post', rfl⟩ := List.append_of_mem hcreator
    have hsplit' : history = pre' ++ creator :: (post' ++ e :: post) := by
      rw [hsplit]
      simp
    have hthere := (grows_start (hrun.split hsplit').1).conversations conv hconv
    exact hcreates.free conv hthere (Prod.mk.inj heq).1.symm
  have hfind := Table.find?_eq_some_iff.mpr ⟨hconv, rfl⟩
  have hfindNow := Table.find?_eq_some_iff.mpr ⟨(grows_start hrun).conversations conv hconv, rfl⟩
  refine ⟨?_, hthen a ha, hthen b hb, fun row hrow => ?_⟩
  · rw [Db.convType?, hfind]
    rwa [Db.convType?, hfindNow] at hdm
  · obtain ⟨hrow, hid⟩ := List.mem_filter.mp hrow
    exact honly row (List.mem_filter.mpr ⟨(grows_start hrun).conversationMembers row hrow, hid⟩)

/-- An old conversation is found, so there is no new one. -/
theorem not_old_and_new (hfiled : s.db.MembersFiled) {old new a b : String} (hne : a ≠ b)
    (hpair : t.db.IsPair old a b) (hpair' : t.db.IsPair new a b)
    (hold : s.db.conversations.has old = true) : s.db.conversations.has new = true := by
  by_contra hnew
  rw [Bool.not_eq_true] at hnew
  obtain ⟨pre, e, post, hsplit, hopens, ⟨now, user, req, hrequest, hlookup⟩, -⟩ :=
    completed hrun hcreate hfiled hne hpair' hnew
  obtain ⟨hdm, ha, hb, -⟩ := isPair_start hrun hcreate hpair hold
  apply not_seen hrun hne hpair hsplit hopens hrequest hlookup
  intro read hread _
  obtain ⟨pre', post', rfl⟩ := List.append_of_mem hread
  have hsplit' : history = pre' ++ read :: (post' ++ e :: post) := by
    rw [hsplit]
    simp
  have hgrows := grows_start (hrun.split hsplit').1
  exact ⟨hgrows.has ha, hgrows.has hb, hgrows.convType? hdm⟩

end Origin

/-! ## Whole runs -/

section Runs

variable (hrun : Interleaving (DmRequest.Sends lib codec) s history t)

include hrun

/-- A job that starts after a conversation is complete finds it, and one that
starts before would overlap. -/
theorem not_two_new (hapart : Apart history) {first a b : String} (hne : a ≠ b)
    (hpair : t.db.IsPair first a b) {e e' : Event DmRequest AppState}
    {pre between post : DmHistory} (hsplit : history = pre ++ e :: (between ++ e' :: post))
    (hjob : e'.job ≠ e.job) (hopens : e.request.Opens a b) (hopens' : e'.request.Opens a b)
    (hcomplete : e.after.db.conversationMembers.has (first, a) = true ∧
      e.after.db.conversationMembers.has (first, b) = true ∧
      e.after.db.convType? first = some "dm")
    {newId user : String} {now : Int} {req : CreateConversationRequest}
    (hrequest : e'.request = .create newId now user req)
    (hlookup : FoundNoPair user req.members (sentBy e'.job (pre ++ e :: between))) : False := by
  have hsplit' : history = (pre ++ e :: between) ++ e' :: post := by
    rw [hsplit]
    simp
  apply not_seen hrun hne hpair hsplit' hopens' hrequest hlookup
  intro read hread hreadJob
  have hreadRequest : read.request = e'.request :=
    (hrun.split hsplit').2.2 read hread hreadJob
  rcases List.mem_append.mp hread with hread | hread
  · have hoverlap := hapart pre e (between ++ e' :: post) hsplit read hread e' (by simp) hreadJob
      (by rw [hreadJob]; exact hjob) a b (by rw [hreadRequest]; exact hopens')
    exact absurd hopens hoverlap
  rcases List.mem_cons.mp hread with rfl | hread
  · exact absurd hreadJob.symm hjob
  · obtain ⟨front, back, rfl⟩ := List.append_of_mem hread
    have hread' : history = (pre ++ e :: front) ++ read :: (back ++ e' :: post) := by
      rw [hsplit]
      simp
    have hgrows := grows_since (hrun.split hread').1 (by simp : e ∈ pre ++ e :: front)
    exact ⟨hgrows.has hcomplete.1, hgrows.has hcomplete.2.1, hgrows.convType? hcomplete.2.2⟩

end Runs

/-- **One conversation for two, if they take turns.** In every schedule of
`create_conversation` requests in which those for the same two members do not
overlap, no two members ever have two conversations. -/
theorem create_onePair (lib : Crates) (codec : DmCodec) (moves : List (Move DmRequest))
    (s : AppState) (hcreate : ∀ request ∈ moves.filterMap Move.request?, request.IsCreate)
    (hfiled : s.db.MembersFiled) (hstart : s.db.OnePair)
    (hapart : Apart (dmServer lib codec moves s).history) :
    (dmServer lib codec moves s).state.db.OnePair := by
  intro a b hne first second hfirst hsecond
  have hsound := dmServer_sound lib codec moves s
  have hrun := hsound.run
  have hcreates : ∀ e ∈ (dmServer lib codec moves s).history, e.request.IsCreate := by
    intro e he
    have hrequest := hsound.request?_eq he
    rw [dmServer, Server.request?_serve] at hrequest
    exact hcreate e.request (List.mem_of_getElem? hrequest)
  by_contra hdiff
  cases hold : s.db.conversations.has first with
  | true =>
      have hold' := not_old_and_new hrun hcreates hfiled hne hfirst hsecond hold
      exact hdiff (hstart a b hne first second (isPair_start hrun hcreates hfirst hold)
        (isPair_start hrun hcreates hsecond hold'))
  | false =>
      cases hold' : s.db.conversations.has second with
      | true =>
          rw [not_old_and_new hrun hcreates hfiled hne hsecond hfirst hold'] at hold
          cases hold
      | false =>
          obtain ⟨pre, e, post, hsplit, hopens, ⟨now, user, req, hrequest, hlookup⟩, hcomplete⟩ :=
            completed hrun hcreates hfiled hne hfirst hold
          obtain ⟨pre', e', post', hsplit', hopens', ⟨now', user', req', hrequest', hlookup'⟩,
            hcomplete'⟩ := completed hrun hcreates hfiled hne hsecond hold'
          have hjob : e'.job ≠ e.job := by
            intro hjob
            have heq := hrun.request_eq (by rw [hsplit']; simp) (by rw [hsplit]; simp) hjob
            rw [hrequest, hrequest'] at heq
            cases heq
            exact hdiff rfl
          have heq : e ≠ e' := fun heq => hjob (by rw [heq])
          rcases split_cases hsplit hsplit' heq with ⟨between, rfl, rfl⟩ | ⟨between, rfl, rfl⟩
          · exact not_two_new hrun hapart hne hfirst hsplit hjob hopens hopens' hcomplete hrequest'
              hlookup'
          · exact not_two_new hrun hapart hne hsecond hsplit' hjob.symm hopens' hopens hcomplete'
              hrequest hlookup

/-- Requests that are served one after the other do not overlap. -/
theorem apart_of_pairwise (h : (history.map (·.job)).Pairwise (· ≤ ·)) : Apart history := by
  rintro pre e post rfl earlier hearlier later hlater hsame hother
  rw [List.map_append, List.map_cons, List.pairwise_append, List.pairwise_cons] at h
  obtain ⟨-, ⟨hlast, -⟩, hfirst⟩ := h
  have hle := hfirst earlier.job (List.mem_map_of_mem hearlier) e.job (by simp)
  have hle' := hlast later.job (List.mem_map_of_mem hlater)
  omega

/-- A hub with a laptop and a phone, and no conversation. -/
def pairHub : AppState where
  db := { Db.migrated with users := chatDb.users }

/-- The laptop opens a conversation with the phone, and the other way around. -/
def laptopOpens : DmRequest :=
  .create "c1" 5 laptopKey ⟨[phoneKey], []⟩

def phoneOpens : DmRequest :=
  .create "c2" 6 phoneKey ⟨[laptopKey], []⟩

/-- The phone finds the conversation of the laptop. -/
def turnsMoves : List (Move DmRequest) :=
  .start laptopOpens :: List.replicate 5 (.exec 0) ++ .start phoneOpens ::
    List.replicate 3 (.exec 1)

/-- Both look for a conversation before either has created one. -/
def racingMoves : List (Move DmRequest) :=
  [.start laptopOpens, .start phoneOpens, .exec 0, .exec 1] ++ List.replicate 4 (.exec 0) ++
    List.replicate 4 (.exec 1)

theorem pairHub_membersFiled : pairHub.db.MembersFiled :=
  fun _ hrow => absurd hrow List.not_mem_nil

theorem pairHub_onePair : pairHub.db.OnePair := by
  intro a b _ first second hfirst _
  cases hfirst.1

theorem turnsMoves_apart :
    Apart (dmServer (.ofRecorded []) chatCodec turnsMoves pairHub).history :=
  apart_of_pairwise (by decide +kernel)

theorem isCreate_of_opens {moves : List (Move DmRequest)}
    (h : moves.filterMap Move.request? = [laptopOpens, phoneOpens]) :
    ∀ request ∈ moves.filterMap Move.request?, request.IsCreate := by
  intro request hrequest
  rw [h] at hrequest
  rcases List.mem_cons.mp hrequest with rfl | hrequest
  · trivial
  · rw [List.mem_singleton.mp hrequest]
    trivial

theorem create_onePair_turnsMoves :
    (∀ request ∈ turnsMoves.filterMap Move.request?, request.IsCreate) ∧
      pairHub.db.MembersFiled ∧ pairHub.db.OnePair ∧
      Apart (dmServer (.ofRecorded []) chatCodec turnsMoves pairHub).history ∧
      (dmServer (.ofRecorded []) chatCodec turnsMoves pairHub).state.db.OnePair :=
  ⟨isCreate_of_opens rfl, pairHub_membersFiled, pairHub_onePair, turnsMoves_apart,
    create_onePair (.ofRecorded []) chatCodec turnsMoves pairHub (isCreate_of_opens rfl)
      pairHub_membersFiled pairHub_onePair turnsMoves_apart⟩

/-- Two members who open a conversation at the same time have two. -/
theorem not_create_onePair_racingMoves :
    ¬ ∀ (lib : Crates) (codec : DmCodec) (moves : List (Move DmRequest)) (s : AppState),
      (∀ request ∈ moves.filterMap Move.request?, request.IsCreate) → s.db.MembersFiled →
      s.db.OnePair → (dmServer lib codec moves s).state.db.OnePair := by
  intro h
  have hone := h (.ofRecorded []) chatCodec racingMoves pairHub (isCreate_of_opens rfl)
    pairHub_membersFiled pairHub_onePair
  have hsame : "c1" = "c2" := hone laptopKey phoneKey (by decide) "c1" "c2" (by decide +kernel)
    (by decide +kernel)
  exact absurd hsame (by decide)

end Voxply.Hub
