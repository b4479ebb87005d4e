/-
# What the statements of a login do

A login is a long sequence of statements, and other requests run in between.
One lemma for each handler says which statements it can send and what it must
have seen before it sends them: the challenge is taken first, a session is only
inserted after the answer was accepted, and a role only after somebody was found
to have one or the owner role was asked for.  Results about interleaved logins
rest on these lemmas alone.
-/

import Voxply.Hub.AuthUser
import Voxply.Hub.VerifyStages

namespace Voxply.Hub

open Voxply.Math Voxply.Identity

variable {lib : Crates} {env : LoginEnv} {req : VerifyRequest} {past : List (Sent AppState)}
  {sent : Sent AppState}

/-! ## Frames -/

/-- The tables that decide about sessions stay as they are, and no member is
lost. -/
structure Aside (s t : AppState) : Prop where
  pendingChallenges : t.pendingChallenges = s.pendingChallenges
  sessions : t.db.sessions = s.db.sessions
  bans : t.db.bans = s.db.bans
  roles : t.db.roles = s.db.roles
  members : ∀ key, s.db.users.has key = true → t.db.users.has key = true

/-- Role assignments stay as they are, too. -/
structure Quiet (s t : AppState) : Prop extends Aside s t where
  userRoles : t.db.userRoles = s.db.userRoles

theorem Quiet.refl (s : AppState) : Quiet s s :=
  ⟨⟨rfl, rfl, rfl, rfl, fun _ h => h⟩, rfl⟩

/-- A write to none of these tables. -/
theorem quiet_written {f : Db → Db} (s : AppState) (hsessions : (f s.db).sessions = s.db.sessions)
    (hbans : (f s.db).bans = s.db.bans) (hroles : (f s.db).roles = s.db.roles)
    (huserRoles : (f s.db).userRoles = s.db.userRoles)
    (hmembers : ∀ key, s.db.users.has key = true → (f s.db).users.has key = true) :
    Quiet s (written f s) :=
  ⟨⟨rfl, hsessions, hbans, hroles, hmembers⟩, huserRoles⟩

theorem users_has_eq (db : Db) (key : String) :
    db.users.has key = (db.users.find? key).isSome := by
  cases hfind : db.users.find? key with
  | none =>
      rw [Option.isSome_none, Table.has_eq_false_iff]
      exact Table.find?_eq_none_iff.mp hfind
  | some row => exact Table.has_of_find? hfind

theorem has_updateUser {publicKey : String} {f : UserRow → UserRow}
    (hkey : ∀ row, (f row).publicKey = row.publicKey) (db : Db) (key : String) :
    (updateUser publicKey f hkey db).users.has key = db.users.has key := by
  rw [users_has_eq, users_has_eq]
  unfold updateUser
  rw [Table.find?_update, Option.isSome_map]

theorem quiet_updateUser {publicKey : String} {f : UserRow → UserRow}
    (hkey : ∀ row, (f row).publicKey = row.publicKey) (s : AppState) :
    Quiet s (written (updateUser publicKey f hkey) s) := by
  apply quiet_written s rfl rfl rfl rfl
  intro key hhas
  rwa [has_updateUser]

theorem has_upsertUser (canonical : String) (now : Int) (status : ApprovalStatus)
    (master : Option String) (db : Db) (key : String) :
    (upsertUser canonical now status master db).users.has key =
      (decide (key = canonical) || db.users.has key) := by
  rw [users_has_eq, users_has_eq, find?_upsertUser]
  by_cases hkey : key = canonical
  · simp [hkey]
  · simp [hkey]

theorem quiet_upsertUser (canonical : String) (now : Int) (status : ApprovalStatus)
    (master : Option String) (s : AppState) :
    Quiet s (written (upsertUser canonical now status master) s) := by
  apply quiet_written s rfl rfl rfl rfl
  intro key hhas
  rw [has_upsertUser, hhas, Bool.or_true]

theorem has_upsertFarmUser (publicKey : String) (now : Int) (db : Db) (key : String) :
    (upsertFarmUser publicKey now db).users.has key =
      (decide (key = publicKey) || db.users.has key) := by
  rw [users_has_eq, users_has_eq]
  unfold upsertFarmUser
  rw [Table.find?_upsert]
  by_cases hkey : key = publicKey
  · simp [hkey]
  · simp [hkey]

theorem quiet_upsertFarmUser (publicKey : String) (now : Int) (s : AppState) :
    Quiet s (written (upsertFarmUser publicKey now) s) := by
  apply quiet_written s rfl rfl rfl rfl
  intro key hhas
  rw [has_upsertFarmUser, hhas, Bool.or_true]

/-! ## Kinds of statements -/

/-- The statement that grants the owner role. -/
def grantsOwner (canonical : String) (now : Int) : AppState → AppState :=
  executed (insertUserRole ⟨canonical, "builtin-owner", now⟩)

/-- The last thing the program did was to find nobody who is the owner. -/
def FoundNoOwner (past : List (Sent AppState)) : Prop :=
  ∃ s : AppState, past.getLast? = some ⟨id, s⟩ ∧
    s.db.userRoles.rows.any (·.roleId = "builtin-owner") = false

/-- The program has entered a member, has found no owner, and then tried to make the member
one. -/
def TriedOwner (past : List (Sent AppState)) (sent : Sent AppState) : Prop :=
  ∃ canonical now, (∃ earlier ∈ past, earlier.after.db.users.has canonical = true) ∧
    FoundNoOwner past ∧ sent.statement = grantsOwner canonical now

/-- The program has found somebody with a role, or has tried to make somebody
the owner. -/
def SeenOwner (past : List (Sent AppState)) : Prop :=
  ∃ earlier sent, earlier ++ [sent] <+: past ∧
    (sent.before.db.userRoles.rows ≠ [] ∨ TriedOwner earlier sent)

/-- What a statement outside the login proper may do: a member can only be made
the owner after the member row was written and no owner was found, and gets the
common role only after there was an owner to be seen. -/
inductive RoleSent (past : List (Sent AppState)) (sent : Sent AppState) : Prop
  | quiet (h : Quiet sent.before sent.after)
  | owner (h : TriedOwner past sent)
  | everyone (canonical : String) (now : Int) (hseen : SeenOwner past)
      (h : sent.statement =
        executed (insertUserRoleOrIgnore ⟨canonical, "builtin-everyone", now⟩))

/-- The first thing the program did was to find a challenge that the request
answers. -/
def AnsweredFirst (lib : Crates) (env : LoginEnv) (req : VerifyRequest)
    (past : List (Sent AppState)) : Prop :=
  ∃ first, past.head? = some first ∧
    challengeAnswer lib env req (first.before.pendingChallenges req.publicKey) = .ok ()

/-- What a statement of `verify` or `renew` may do. -/
inductive LoginSent (lib : Crates) (env : LoginEnv) (req : VerifyRequest)
    (past : List (Sent AppState)) (sent : Sent AppState) : Prop
  | take (hpast : past = [])
      (h : sent.statement = fun s => s.setChallenge req.publicKey none)
  | session (canonical : String) (hanswered : AnsweredFirst lib env req past)
      (h : sent.statement = executed (insertSession ⟨env.token, canonical, env.now⟩))
  | other (hpast : past ≠ []) (h : RoleSent past sent)

theorem SeenOwner.mono {later : List (Sent AppState)} (h : SeenOwner past)
    (hpast : past <+: later) : SeenOwner later := by
  obtain ⟨earlier, sent, hsent, hcase⟩ := h
  exact ⟨earlier, sent, hsent.trans hpast, hcase⟩

theorem AnsweredFirst.mono {later : List (Sent AppState)}
    (h : AnsweredFirst lib env req past) (hpast : past <+: later) :
    AnsweredFirst lib env req later := by
  obtain ⟨first, hfirst, hanswer⟩ := h
  obtain ⟨rest, rfl⟩ := hpast
  refine ⟨first, ?_, hanswer⟩
  rw [List.head?_append, hfirst]
  rfl

theorem AnsweredFirst.ne_nil (h : AnsweredFirst lib env req past) : past ≠ [] := by
  rintro rfl
  obtain ⟨first, hfirst, -⟩ := h
  simp at hfirst

/-! ## Role assignments -/

theorem aside_insertUserRole {row : UserRoleRow} {s : AppState} {db : Db}
    (h : insertUserRole row s.db = .ok db) : Aside s (s.withDb db) := by
  unfold insertUserRole at h
  split at h
  · cases h
  · split_ifs at h
    cases h
    exact ⟨rfl, rfl, rfl, rfl, fun _ h => h⟩

theorem aside_executed {f : Db → Except SqlError Db} {s : AppState}
    (h : ∀ db, f s.db = .ok db → Aside s (s.withDb db)) : Aside s (executed f s) := by
  cases hf : f s.db with
  | ok db =>
      rw [executed_of_ok hf]
      exact h db hf
  | error e =>
      rw [executed_of_error hf]
      exact (Quiet.refl s).toAside

theorem RoleSent.aside (h : RoleSent past sent) : Aside sent.before sent.after := by
  cases h with
  | quiet h => exact h.toAside
  | owner h =>
      obtain ⟨canonical, now, -, -, h⟩ := h
      rw [Sent.after, h]
      exact aside_executed fun db => aside_insertUserRole
  | everyone canonical now _ h =>
      rw [Sent.after, h]
      apply aside_executed
      intro db hdb
      unfold insertUserRoleOrIgnore at hdb
      split_ifs at hdb
      · cases hdb
        exact (Quiet.refl sent.before).toAside
      · exact aside_insertUserRole hdb

theorem follows_writeIgnoring {good : List (Sent AppState) → Sent AppState → Prop}
    {f : Db → Except SqlError Db} {post : Unit → List (Sent AppState) → Prop}
    (hgood : ∀ s, good past ⟨executed f, s⟩) (hpost : ∀ s, post () (past ++ [⟨executed f, s⟩])) :
    (writeIgnoring f).Follows good post past := by
  have hact := written_ignoring f
  apply follows_write
  · exact hact ▸ hgood
  · exact hact ▸ hpost

/-! ## Stages that only read, or write elsewhere -/

/-- The condition on a statement that may stand anywhere. -/
def quietly (_ : List (Sent AppState)) (sent : Sent AppState) : Prop :=
  Quiet sent.before sent.after

theorem quietly_fetch (s : AppState) : quietly past ⟨id, s⟩ :=
  Quiet.refl s

theorem registerBot_follows (canonical : String) (botMeta : BotMeta) :
    (registerBot lib env canonical botMeta).Follows quietly (fun _ _ => True) past := by
  apply follows_write_bind
  · exact fun s => quiet_written s rfl rfl rfl rfl fun _ h => h
  intro s
  apply Prog.Follows.bind_any
  · apply Prog.follows_whenSome _ fun _ => trivial
    intro cmds _
    apply follows_write_bind
    · exact fun s => quiet_written s rfl rfl rfl rfl fun _ h => h
    intro s
    apply Prog.follows_each
    intro cmd _ past _
    apply follows_execute _ fun _ _ _ => trivial
    intro s
    change Quiet s (executed (insertBotCommand (cmd.row canonical)) s)
    unfold executed insertBotCommand
    cases s.db.botCommands.insert? (cmd.row canonical) with
    | none => exact Quiet.refl s
    | some botCommands => exact ⟨⟨rfl, rfl, rfl, rfl, fun _ h => h⟩, rfl⟩
  intro _ past _
  exact follows_write (quiet_updateUser _) fun _ => trivial

theorem botGate_follows (canonical : String) :
    (botGate lib env req canonical).Follows quietly (fun _ _ => True) past := by
  apply Prog.follows_when _ fun _ => trivial
  intro _
  apply follows_fetch_bind quietly_fetch
  intro s
  apply Prog.follows_ensure_bind
  intro _
  apply follows_write_bind (quiet_updateUser _)
  intro s
  apply Prog.follows_whenSome _ fun _ => trivial
  exact fun botMeta _ => registerBot_follows canonical botMeta

theorem certGate_follows :
    (certGate lib env req).Follows quietly (fun _ _ => True) past := by
  apply follows_fetch_bind quietly_fetch
  intro s
  apply Prog.follows_when _ fun _ => trivial
  intro _
  apply follows_fetch_bind quietly_fetch
  intro s
  apply follows_fetch_bind quietly_fetch
  intro s
  exact Prog.follows_ensure fun _ => trivial

/-- Whoever gets past the gates was found not to be banned. -/
theorem admissionGates_follows (canonical : String) :
    (admissionGates lib env req canonical).Follows quietly
      (fun _ past => ∃ sent ∈ past, sent.before.db.bans.has canonical = false) past := by
  apply follows_fetch_bind quietly_fetch
  intro s
  apply Prog.follows_ensure_bind
  intro hclear
  apply follows_fetch_bind quietly_fetch
  intro _
  apply Prog.follows_ofExcept_bind
  intro _ _
  apply follows_fetch_bind quietly_fetch
  intro _
  apply Prog.follows_ofExcept_bind
  intro _ _
  apply Prog.Follows.bind_any certGate_follows
  intro _ past' hpast
  refine ⟨⟨id, s⟩, hpast.subset (by simp), ?_⟩
  simpa using hclear

theorem inviteGate_follows (canonical : String) :
    (inviteGate env req canonical).Follows quietly (fun _ _ => True) past := by
  apply follows_fetch_bind quietly_fetch
  intro s
  apply Prog.follows_when _ fun _ => trivial
  intro _
  apply follows_fetch_bind quietly_fetch
  intro s
  apply Prog.follows_when _ fun _ => trivial
  intro _
  cases req.inviteCode with
  | none => trivial
  | some code =>
      apply follows_fetch_bind quietly_fetch
      intro s
      apply Prog.follows_ofExcept_bind
      intro _ _
      apply follows_write _ fun _ => trivial
      exact fun s => quiet_written s rfl rfl rfl rfl fun _ h => h

theorem challengeGate_follows :
    (challengeGate env req).Follows quietly (fun _ _ => True) past := by
  apply follows_fetch_bind quietly_fetch
  intro s
  apply Prog.follows_when _ fun _ => trivial
  intro _
  cases req.challengeToken with
  | none => trivial
  | some token =>
      apply follows_fetch_bind quietly_fetch
      intro s
      apply Prog.follows_ofExcept_bind
      intro _ _
      apply follows_write _ fun _ => trivial
      exact fun s => quiet_written s rfl rfl rfl rfl fun _ h => h

theorem sessionScope_follows (canonical : String) (minLevel : ℕ) :
    (sessionScope canonical minLevel).Follows quietly (fun _ _ => True) past := by
  apply follows_fetch_bind quietly_fetch
  intro s
  apply follows_fetch_bind quietly_fetch
  exact fun s => trivial

/-! ## Role assignment -/

theorem roleSent_of_quietly (h : quietly past sent) : RoleSent past sent :=
  .quiet h

theorem roleSent_fetch (s : AppState) : RoleSent past ⟨id, s⟩ :=
  .quiet (Quiet.refl s)

/-- Finding roles, or finding an owner, is seeing somebody with a role. -/
theorem seenOwner_of_roleCount {s : AppState} {publicKey : String}
    (h : s.db.roleCount publicKey ≠ 0) : SeenOwner (past ++ [⟨id, s⟩]) := by
  refine ⟨past, ⟨id, s⟩, List.prefix_refl _, .inl fun hempty => h ?_⟩
  change s.db.userRoles.rows = [] at hempty
  simp [Db.roleCount, hempty]

theorem seenOwner_of_any {s : AppState}
    (h : s.db.userRoles.rows.any (·.roleId = "builtin-owner") ≠ false) :
    SeenOwner (past ++ [⟨id, s⟩]) := by
  refine ⟨past, ⟨id, s⟩, List.prefix_refl _, .inl fun hempty => h ?_⟩
  change s.db.userRoles.rows = [] at hempty
  simp [hempty]

theorem seenOwner_of_tried (h : TriedOwner past sent) : SeenOwner (past ++ [sent]) :=
  ⟨past, sent, List.prefix_refl _, .inr h⟩

/-- A member is to be made the owner when no owner has just been found. -/
theorem triedOwner_of_none {canonical : String} {s s' : AppState} (now : Int)
    (hmember : ∃ earlier ∈ past, earlier.after.db.users.has canonical = true)
    (hnone : s'.db.userRoles.rows.any (·.roleId = "builtin-owner") = false) (s'' : AppState) :
    TriedOwner (past ++ [⟨id, s⟩] ++ [⟨id, s'⟩]) ⟨grantsOwner canonical now, s''⟩ := by
  obtain ⟨earlier, hearlier, hmember⟩ := hmember
  exact ⟨canonical, now, ⟨earlier, by simp [hearlier], hmember⟩, ⟨s', by simp, hnone⟩, rfl⟩

theorem assignRoles_follows {canonical : String}
    (hmember : ∃ earlier ∈ past, earlier.after.db.users.has canonical = true) :
    (assignRoles env canonical).Follows RoleSent (fun _ past => SeenOwner past) past := by
  apply follows_fetch_bind roleSent_fetch
  intro s
  apply Prog.follows_when
  · intro _
    apply follows_fetch_bind roleSent_fetch
    intro s'
    refine Prog.Follows.bind (?_ : Prog.Follows _ (fun _ past => SeenOwner past) _ _) ?_
    · apply Prog.follows_when
      · intro hnone
        apply follows_execute
        · exact fun s'' => .owner (triedOwner_of_none env.now hmember hnone s'')
        · exact fun s'' _ _ => seenOwner_of_tried (triedOwner_of_none env.now hmember hnone s'')
      · exact seenOwner_of_any
    · intro _ past' _ hseen
      apply follows_execute
      · exact fun s'' => .everyone canonical env.now hseen rfl
      · exact fun s'' _ _ => hseen.mono (List.prefix_append ..)
  · exact seenOwner_of_roleCount

theorem assignFarmRoles_follows {publicKey : String} (now : Int)
    (hmember : ∃ earlier ∈ past, earlier.after.db.users.has publicKey = true) :
    (assignFarmRoles now publicKey).Follows RoleSent (fun _ past => SeenOwner past) past := by
  apply follows_fetch_bind roleSent_fetch
  intro s
  apply Prog.follows_when
  · intro _
    apply follows_fetch_bind roleSent_fetch
    intro s'
    refine Prog.Follows.bind (?_ : Prog.Follows _ (fun _ past => SeenOwner past) _ _) ?_
    · apply Prog.follows_when
      · intro hnone
        apply follows_writeIgnoring
        · exact fun s'' => .owner (triedOwner_of_none now hmember hnone s'')
        · exact fun s'' => seenOwner_of_tried (triedOwner_of_none now hmember hnone s'')
      · exact seenOwner_of_any
    · intro _ past' _ hseen
      apply follows_writeIgnoring
      · exact fun s'' => .everyone publicKey now hseen rfl
      · exact fun s'' => hseen.mono (List.prefix_append ..)
  · exact seenOwner_of_roleCount

/-! ## Farm tokens -/

theorem refetchFarmPubkey_follows (authEnv : AuthEnv) (token : String) (firstErr : ApiError) :
    (refetchFarmPubkey lib authEnv token firstErr).Follows quietly (fun _ _ => True) past := by
  apply Prog.follows_query_bind quietly_fetch
  intro s
  apply Prog.follows_ensure_bind
  intro _
  apply Prog.follows_query_bind quietly_fetch
  intro s
  apply Prog.follows_ensure_bind
  intro _
  apply Prog.follows_exec_bind
  · exact fun s => ⟨⟨rfl, rfl, rfl, rfl, fun _ h => h⟩, rfl⟩
  intro s
  cases authEnv.farmInfo with
  | none => trivial
  | some newPk =>
      apply Prog.follows_exec_bind
      · exact fun s => ⟨⟨rfl, rfl, rfl, rfl, fun _ h => h⟩, rfl⟩
      intro s
      exact Prog.follows_ofExcept fun _ _ => trivial

theorem farmIdentity_follows (authEnv : AuthEnv) (token : String) :
    (farmIdentity lib authEnv token).Follows quietly (fun _ _ => True) past := by
  apply Prog.follows_query_bind quietly_fetch
  intro s
  cases s.cachedFarmPubkey with
  | none => trivial
  | some farmPubkey =>
      dsimp only
      cases tryVerifyFarmToken lib authEnv.checkNow farmPubkey token with
      | ok sub => trivial
      | error firstErr => exact refetchFarmPubkey_follows authEnv token firstErr

theorem farmAdmission_follows (now : Int) (path publicKey : String) :
    (farmAdmission now path publicKey).Follows RoleSent (fun _ past => SeenOwner past) past := by
  apply follows_write_bind
  · exact fun s => .quiet (quiet_upsertFarmUser publicKey now s)
  intro s
  have hmember : ∃ earlier ∈ past ++ [⟨written (upsertFarmUser publicKey now), s⟩],
      earlier.after.db.users.has publicKey = true := by
    refine ⟨⟨written (upsertFarmUser publicKey now), s⟩, by simp, ?_⟩
    change (upsertFarmUser publicKey now s.db).users.has publicKey = true
    simp [has_upsertFarmUser]
  apply (assignFarmRoles_follows now hmember).bind
  intro _ past' _ hseen
  apply follows_fetch_bind roleSent_fetch
  intro _
  apply Prog.follows_ensure_bind
  intro _
  apply follows_fetch_bind roleSent_fetch
  intro _
  apply Prog.follows_ensure
  exact fun _ => (hseen.mono (List.prefix_append ..)).mono (List.prefix_append ..)

theorem opaqueIdentity_follows (path token : String) :
    (opaqueIdentity path token).Follows quietly (fun _ _ => True) past := by
  refine Prog.Follows.bind_any (p := tokenOwner token) ?_ ?_
  · apply follows_fetch_bind quietly_fetch
    intro s
    cases s.db.sessionUser token with
    | some owner => trivial
    | none =>
        apply follows_fetch_bind quietly_fetch
        exact fun s => Prog.follows_ofExcept fun _ _ => trivial
  rintro ⟨publicKey, approvalStatus⟩ past' -
  apply follows_fetch_bind quietly_fetch
  intro s
  apply Prog.follows_ensure_bind
  intro _
  apply Prog.follows_ensure_bind
  exact fun _ => trivial

/-- The extractor assigns roles to farm users, and reads otherwise. -/
theorem authUser_follows (authEnv : AuthEnv) (header : AuthRequest) :
    (authUser lib authEnv header).Follows RoleSent
      (fun _ past => ∀ token, bearerToken header = .ok token → isFarmToken token = true →
        SeenOwner past) past := by
  apply Prog.follows_ofExcept_bind
  intro token htoken
  split_ifs with hfarm
  · refine Prog.Follows.bind_any ?_ ?_
    · exact (farmIdentity_follows authEnv token).mono (fun _ _ _ => roleSent_of_quietly)
        fun _ _ _ _ => trivial
    intro publicKey past' _
    apply (farmAdmission_follows authEnv.now header.path publicKey).bind
    intro _ past'' _ hseen
    exact fun _ _ _ => hseen
  · apply (opaqueIdentity_follows header.path token).mono (fun _ _ _ => roleSent_of_quietly)
    intro _ _ _ _ token' htoken' hfarm'
    rw [htoken, Except.ok.injEq] at htoken'
    rw [htoken'] at hfarm
    exact absurd hfarm' hfarm

/-! ## Logins -/

theorem ne_nil_mono {later : List (Sent AppState)} (hpast : past ≠ [])
    (hlater : past <+: later) : later ≠ [] := by
  rintro rfl
  exact hpast (List.prefix_nil.mp hlater)

/-- A stage after the first statement may assign roles. -/
theorem follows_of_roleSent {A : Type} {p : Handler A} {post : A → List (Sent AppState) → Prop}
    (h : p.Follows RoleSent post past) (hpast : past ≠ []) :
    p.Follows (LoginSent lib env req) post past :=
  h.mono (fun _ _ hlater hsent => .other (ne_nil_mono hpast hlater) hsent)
    fun _ _ _ hpost => hpost

theorem follows_of_quietly {A : Type} {p : Handler A} {post : A → List (Sent AppState) → Prop}
    (h : p.Follows quietly post past) (hpast : past ≠ []) :
    p.Follows (LoginSent lib env req) post past :=
  follows_of_roleSent (h.mono (fun _ _ _ => roleSent_of_quietly) fun _ _ _ hpost => hpost) hpast

/-- The identity that a login has resolved: the first lookup comes right after
the challenge was taken, the second one follows if it found nothing. -/
def resolvedKey (req : VerifyRequest) (past : List (Sent AppState)) : Option String :=
  match req.subkeyCert with
  | none => some req.publicKey
  | some cert =>
      past[1]?.bind fun first =>
        match first.before.db.userOfMaster cert.masterPubkey with
        | some canonical => some canonical
        | none => past[2]?.map fun second =>
            (second.before.db.legacyUser req.publicKey).getD cert.masterPubkey

theorem getElem?_mono {later : List (Sent AppState)} {i : ℕ} (hpast : past <+: later)
    (h : past[i]? = some sent) : later[i]? = some sent := by
  obtain ⟨rest, rfl⟩ := hpast
  rw [List.getElem?_append_left (List.getElem?_eq_some_iff.mp h).1, h]

/-- What a login has resolved stays resolved. -/
theorem resolvedKey_mono {later : List (Sent AppState)} {canonical : String}
    (h : resolvedKey req past = some canonical) (hpast : past <+: later) :
    resolvedKey req later = some canonical := by
  unfold resolvedKey at h ⊢
  cases hcert : req.subkeyCert with
  | none => rwa [hcert] at h
  | some cert =>
      rw [hcert] at h
      obtain ⟨first, hfirst, h⟩ := Option.bind_eq_some_iff.mp h
      dsimp only
      rw [getElem?_mono hpast hfirst, Option.bind_some]
      cases hmaster : first.before.db.userOfMaster cert.masterPubkey with
      | some found => rwa [hmaster] at h
      | none =>
          rw [hmaster] at h
          obtain ⟨second, hsecond, h⟩ := Option.map_eq_some_iff.mp h
          rw [getElem?_mono hpast hsecond, Option.map_some, h]

theorem takeChallenge_follows :
    (takeChallenge req.publicKey).Follows (LoginSent lib env req)
      (fun pending past => ∃ first, past = [first] ∧
        first.before.pendingChallenges req.publicKey = some pending) [] := by
  intro s
  refine ⟨.take rfl rfl, ?_⟩
  change (Prog.ofExcept _ : Handler PendingChallenge).Follows _ _ _
  cases hpending : s.pendingChallenges req.publicKey with
  | none => trivial
  | some pending => exact ⟨_, rfl, hpending⟩

/-- The checks of `verify` and `renew` in either order make up the answer. -/
theorem challengeAnswer_of_checks {pending : PendingChallenge} {answer : List UInt8 × List UInt8}
    (hanswered : answeredChallenge env.instant req.challenge req.signature pending = .ok answer)
    (hsigned : checkLoginSignature lib.ed25519 req.publicKey answer.1 answer.2 = .ok ()) :
    challengeAnswer lib env req (some pending) = .ok () := by
  unfold challengeAnswer
  dsimp only
  rw [hanswered]
  exact hsigned

theorem answeredFirst_of_checks {first : Sent AppState} {pending : PendingChallenge}
    {answer : List UInt8 × List UInt8}
    (hpending : first.before.pendingChallenges req.publicKey = some pending)
    (hanswered : answeredChallenge env.instant req.challenge req.signature pending = .ok answer)
    (hsigned : checkLoginSignature lib.ed25519 req.publicKey answer.1 answer.2 = .ok ()) :
    AnsweredFirst lib env req [first] := by
  refine ⟨first, rfl, ?_⟩
  rw [hpending]
  exact challengeAnswer_of_checks hanswered hsigned

theorem answerChallenge_follows :
    (answerChallenge lib env req).Follows (LoginSent lib env req)
      (fun _ past => AnsweredFirst lib env req past ∧ past.length = 1) [] := by
  apply takeChallenge_follows.bind
  rintro pending past - ⟨first, rfl, hpending⟩
  apply Prog.follows_ofExcept_bind
  intro answer hanswered
  apply Prog.follows_ofExcept
  intro _ hsigned
  exact ⟨answeredFirst_of_checks hpending hanswered hsigned, rfl⟩

theorem loginSent_fetch (hpast : past ≠ []) (s : AppState) :
    LoginSent lib env req past ⟨id, s⟩ :=
  .other hpast (roleSent_fetch s)

theorem resolveCanonicalIdentity_follows (hanswered : past.length = 1) :
    (resolveCanonicalIdentity lib req.publicKey req.subkeyCert).Follows (LoginSent lib env req)
      (fun identity past => resolvedKey req past = some identity.1) past := by
  have hpast : past ≠ [] := by
    rintro rfl
    simp at hanswered
  apply Prog.follows_ofExcept_bind
  intro _ _
  cases hcert : req.subkeyCert with
  | none =>
      change resolvedKey req past = some req.publicKey
      rw [resolvedKey, hcert]
  | some cert =>
      apply follows_fetch_bind (loginSent_fetch hpast)
      intro first
      have hfirst : (past ++ [⟨id, first⟩])[1]? = some ⟨id, first⟩ := by
        rw [← hanswered, List.getElem?_concat_length]
      cases hmaster : first.db.userOfMaster cert.masterPubkey with
      | some canonical =>
          change resolvedKey req _ = some canonical
          unfold resolvedKey
          rw [hcert]
          dsimp only
          rw [hfirst, Option.bind_some, hmaster]
      | none =>
          apply follows_fetch_bind (loginSent_fetch (by simp))
          intro second
          have hsecond : (past ++ [⟨id, first⟩] ++ [⟨id, second⟩])[2]? = some ⟨id, second⟩ := by
            have hlength : (past ++ [(⟨id, first⟩ : Sent AppState)]).length = 2 := by
              simp [hanswered]
            rw [← hlength, List.getElem?_concat_length]
          change resolvedKey req _ = some _
          unfold resolvedKey
          rw [hcert]
          dsimp only
          rw [getElem?_mono (List.prefix_append ..) hfirst, Option.bind_some, hmaster]
          dsimp only
          rw [hsecond]
          rfl

/-- A login that passes the first half has answered its challenge, resolved its
identity and found it not to be banned. -/
theorem checkLogin_follows :
    (checkLogin lib env req).Follows (LoginSent lib env req)
      (fun found past => AnsweredFirst lib env req past ∧ resolvedKey req past = some found.1 ∧
        ∃ sent ∈ past, sent.before.db.bans.has found.1 = false) [] := by
  apply answerChallenge_follows.bind
  rintro _ past - ⟨hanswered, hlength⟩
  apply (resolveCanonicalIdentity_follows hlength).bind
  rintro ⟨canonical, master⟩ past' hpast hresolved
  have hanswered := hanswered.mono hpast
  apply (follows_of_quietly (botGate_follows canonical) hanswered.ne_nil).bind_any
  intro _ past'' hpast
  have hanswered := hanswered.mono hpast
  apply (follows_of_quietly (admissionGates_follows canonical) hanswered.ne_nil).bind
  intro minLevel past''' hpast' hclear
  exact ⟨hanswered.mono hpast', resolvedKey_mono hresolved (hpast.trans hpast'), hclear⟩

/-- The second half leaves an owner to be seen. -/
theorem completeLogin_follows {canonical : String} {master : Option String} {minLevel : ℕ}
    (hanswered : AnsweredFirst lib env req past) :
    (completeLogin env req canonical master minLevel).Follows (LoginSent lib env req)
      (fun _ past => SeenOwner past) past := by
  have henroll : (enroll env canonical master).Follows (LoginSent lib env req)
      (fun _ past => ∃ earlier ∈ past, earlier.after.db.users.has canonical = true) past := by
    apply follows_fetch_bind (loginSent_fetch hanswered.ne_nil)
    intro first
    apply follows_fetch_bind (loginSent_fetch (by simp))
    intro second
    generalize initialStatus _ _ = status
    apply follows_write_bind
    · exact fun s => .other (by simp) (.quiet (quiet_upsertUser _ _ _ _ s))
    intro s
    apply follows_execute
    · intro t
      apply LoginSent.session canonical _ rfl
      exact ((hanswered.mono (List.prefix_append ..)).mono
        (List.prefix_append ..)).mono (List.prefix_append ..)
    · intro t db _
      refine ⟨⟨written (upsertUser canonical env.now status master), s⟩, by simp, ?_⟩
      change (upsertUser canonical env.now status master s.db).users.has canonical = true
      rw [has_upsertUser, decide_eq_true rfl, Bool.true_or]
  apply henroll.bind
  rintro _ past' hpast hmember
  have hanswered := hanswered.mono hpast
  apply (follows_of_quietly (inviteGate_follows canonical) hanswered.ne_nil).bind_any
  intro _ past'' hpast
  have hanswered := hanswered.mono hpast
  obtain ⟨earlier, hearlier, hmember⟩ := hmember
  apply (follows_of_roleSent
    (assignRoles_follows ⟨earlier, hpast.subset hearlier, hmember⟩) hanswered.ne_nil).bind
  intro _ past''' hpast hseen
  have hanswered := hanswered.mono hpast
  apply (follows_of_quietly challengeGate_follows hanswered.ne_nil).bind_any
  intro _ later hlater
  have hanswered := hanswered.mono hlater
  apply (follows_of_quietly (sessionScope_follows canonical minLevel) hanswered.ne_nil).bind_any
  intro _ last hlast
  exact hseen.mono (hlater.trans hlast)

/-- What `verify` can send, and what it must have seen when it lets somebody
in. -/
theorem verify_follows :
    (verify lib env req).Follows (LoginSent lib env req)
      (fun _ past => SeenOwner past ∧ ∃ canonical, resolvedKey req past = some canonical ∧
        ∃ sent ∈ past, sent.before.db.bans.has canonical = false) [] := by
  apply checkLogin_follows.bind
  rintro ⟨canonical, master, minLevel⟩ past - ⟨hanswered, hresolved, sent, hsent, hclear⟩
  apply (completeLogin_follows hanswered).mono fun _ _ _ h => h
  intro _ later hlater hseen
  exact ⟨hseen, canonical, resolvedKey_mono hresolved hlater, sent, hlater.subset hsent,
    hclear⟩

theorem renew_follows (user : String) :
    (renew lib env user req).Follows (LoginSent lib env req) (fun _ _ => True) [] := by
  apply takeChallenge_follows.bind
  rintro pending past - ⟨first, rfl, hpending⟩
  apply Prog.follows_ofExcept_bind
  intro answer hanswered
  apply Prog.follows_ensure_bind
  intro _
  apply Prog.follows_ofExcept_bind
  intro _ hsigned
  apply follows_execute_bind
  · exact fun s => .session user (answeredFirst_of_checks hpending hanswered hsigned) rfl
  · exact fun _ _ _ => trivial

end Voxply.Hub
