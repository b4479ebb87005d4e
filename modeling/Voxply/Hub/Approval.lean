/-
# Members who wait for an approval

A hub can be set up so that new members have to be approved.  Until then the
extractor lets a member see nothing but their own status.  Two things get around
the gate.  The websocket endpoint looks at the session and at revocations, and
not at the member row at all.  And the gate goes by the row that it finds: the
login enters a new member as pending, but a farm token, or a direct message that
mentions the key, enters it as approved, and the login keeps what it finds.

The first part compares the two extractors on every state.  The second follows a
key that is new to the hub through runs: the gate holds as long as nothing but
the login enters the key.
-/

import Voxply.Hub.CertifiedSessions
import Voxply.Hub.DmProvenance
import Voxply.Hub.FarmAdmission
import Voxply.Hub.RotationDecision

namespace Voxply.Hub

open Voxply.Math Voxply.Identity

variable {lib : Crates} {codec : DmCodec} {s t : AppState} {db : Db} {key token path : String}

/-! ## Sockets -/

/-- Whoever the websocket endpoint takes the holder of a token for, the extractor
takes them for the same on the path. -/
def SocketRefinesHttp (lib : Crates) (env : AuthEnv) (path token : String) (s : AppState) : Prop :=
  ∀ key, ((wsHandler token).run s).1 = .ok key →
    ((authUser lib env (.bearing token path)).run s).1 = .ok key

/-- The owner of the session is a member who does not wait for an approval. An
owner without a member row would have to be the owner of a bot token of the same
text. -/
def Db.OwnerAdmitted (db : Db) (session : SessionRow) : Prop :=
  match db.users.find? session.publicKey with
  | some user => user.approvalStatus ≠ .pending
  | none => (db.botTokens.find? session.token).map (·.publicKey) = some session.publicKey

theorem wsAnswer_eq_ok_iff :
    db.wsAnswer token = .ok key ↔
      ∃ session, db.sessions.find? token = some session ∧ db.isRevoked session.publicKey = false ∧
        session.publicKey = key := by
  unfold Db.wsAnswer
  cases db.sessions.find? token with
  | none => simp
  | some session =>
      cases hrevoked : db.isRevoked session.publicKey <;> simp [hrevoked]

theorem opaqueAnswer_of_owner {status : ApprovalStatus}
    (howner : (db.sessionUser token).or (db.botTokenUser token) = some (key, status))
    (hrevoked : db.isRevoked key = false) (hpath : path ∉ pendingAllowedPaths) :
    db.opaqueAnswer path token = .ok key ↔ status ≠ .pending := by
  unfold Db.opaqueAnswer
  rw [howner]
  simp [hrevoked, hpath]

/-- Only the owner whom a token names is ever let in. -/
theorem opaqueAnswer_of_ne {other : String} {status : ApprovalStatus}
    (howner : (db.sessionUser token).or (db.botTokenUser token) = some (other, status))
    (hne : other ≠ key) : db.opaqueAnswer path token ≠ .ok key := by
  unfold Db.opaqueAnswer
  rw [howner]
  dsimp only
  split_ifs <;> simp [hne]

/-- What the extractor makes of a session whose key is not revoked. -/
theorem opaqueAnswer_session_iff {session : SessionRow}
    (hsession : db.sessions.find? token = some session)
    (hrevoked : db.isRevoked session.publicKey = false) (hpath : path ∉ pendingAllowedPaths) :
    db.opaqueAnswer path token = .ok session.publicKey ↔ db.OwnerAdmitted session := by
  have htoken : session.token = token := (Table.find?_eq_some_iff.mp hsession).2
  unfold Db.OwnerAdmitted
  cases huser : db.users.find? session.publicKey with
  | some user =>
      refine opaqueAnswer_of_owner ?_ hrevoked hpath
      simp [Db.sessionUser, hsession, huser]
  | none =>
      have hnone : db.sessionUser token = none := by simp [Db.sessionUser, hsession, huser]
      rw [htoken]
      cases hbot : db.botTokens.find? token with
      | none => simp [Db.opaqueAnswer, hnone, Db.botTokenUser, hbot]
      | some bot =>
          have howner : (db.sessionUser token).or (db.botTokenUser token) =
              some (bot.publicKey, .approved) := by
            simp [hnone, Db.botTokenUser, hbot]
          by_cases hsame : bot.publicKey = session.publicKey
          · rw [hsame] at howner
            simp [opaqueAnswer_of_owner howner hrevoked hpath, hsame]
          · simp [opaqueAnswer_of_ne howner hsame, hsame]

/-- The websocket endpoint accepts no more than the extractor exactly if the
owner of the session is revoked or admitted. -/
theorem socketRefinesHttp_iff (lib : Crates) (env : AuthEnv) (path token : String) (s : AppState)
    (htoken : isFarmToken token = false) (hpath : path ∉ pendingAllowedPaths) :
    SocketRefinesHttp lib env path token s ↔
      ∀ session, s.db.sessions.find? token = some session →
        s.db.isRevoked session.publicKey = true ∨ s.db.OwnerAdmitted session := by
  unfold SocketRefinesHttp
  rw [run_authUser_session htoken, run_opaqueIdentity, run_wsHandler]
  constructor
  · intro h session hsession
    cases hrevoked : s.db.isRevoked session.publicKey with
    | true => exact .inl rfl
    | false =>
        have hanswer := h session.publicKey
          (wsAnswer_eq_ok_iff.mpr ⟨session, hsession, hrevoked, rfl⟩)
        exact .inr ((opaqueAnswer_session_iff hsession hrevoked hpath).mp hanswer)
  · intro h key hkey
    obtain ⟨session, hsession, hrevoked, rfl⟩ := wsAnswer_eq_ok_iff.mp hkey
    rcases h session hsession with hyes | hadmitted
    · rw [hrevoked] at hyes
      cases hyes
    · exact (opaqueAnswer_session_iff hsession hrevoked hpath).mpr hadmitted

/-- A hub that approves its members. The phone was there first; the laptop logs
in later and has to wait. -/
def approvalDb : Db :=
  { Db.migrated with
    hubSettings := Db.migrated.hubSettings.replace ⟨"require_approval", "true"⟩ }

def waitingHub : AppState :=
  runAll (LoginCall.exec deviceLib)
    (loginWith phoneAnswer none 10 1 ++ loginWith laptopAnswer none 20 2) { db := approvalDb }

/-- The phone is let in either way. -/
theorem socketRefinesHttp_phone :
    SocketRefinesHttp deviceLib farmEnv "/channels" (hexEncode (.replicate 32 1)) waitingHub := by
  rw [socketRefinesHttp_iff _ _ _ _ _ (isFarmToken_hexEncode _) (by decide)]
  have hfound : waitingHub.db.sessions.find? (hexEncode (.replicate 32 1)) =
      some ⟨hexEncode (.replicate 32 1), phoneKey, 10⟩ ∧
      waitingHub.db.users.find? phoneKey = some ⟨phoneKey, 10, 10, .approved, none, false, 0, none,
      .none, none⟩ := by
    decide +kernel
  intro session hsession
  rw [hfound.1] at hsession
  cases hsession
  refine .inr ?_
  rw [Db.OwnerAdmitted, hfound.2]
  decide

/-- The laptop waits for its approval, and reads along meanwhile. -/
theorem waitingHub_socket :
    isFarmToken (hexEncode (.replicate 32 2)) = false ∧ "/channels" ∉ pendingAllowedPaths ∧
      ¬ SocketRefinesHttp deviceLib farmEnv "/channels" (hexEncode (.replicate 32 2))
        waitingHub := by
  refine ⟨isFarmToken_hexEncode _, by decide, fun h => ?_⟩
  have hanswers : ((wsHandler (hexEncode (.replicate 32 2))).run waitingHub).1 = .ok laptopKey ∧
      waitingHub.db.opaqueAnswer "/channels" (hexEncode (.replicate 32 2)) =
        .error ⟨.forbidden, "Account is pending admin approval"⟩ := by
    decide +kernel
  have hadmitted := h laptopKey hanswers.1
  rw [run_authUser_session (isFarmToken_hexEncode _), run_opaqueIdentity, hanswers.2] at hadmitted
  cases hadmitted

/-! ## Runs -/

/-- `approve_user`. -/
def approveUserRequest (user targetKey : String) : Handler StatusCode := do
  let perms ← userPermissions user
  .ofExcept (perms.require admin)
  write (approveUser targetKey)
  pure .ok

/-- The calls that can bear on who is a member: logins, requests that the
extractor looks at, direct messages and approvals. The handlers stand for
themselves; the extractor that precedes them is a call of its own. -/
inductive GateCall where
  | login (call : LoginCall)
  | request (env : AuthEnv) (req : AuthRequest)
  | createConversation (id : String) (now : Int) (user : String) (req : CreateConversationRequest)
  | sendDm (env : SendEnv) (user conversationId : String) (req : SendDmRequest)
  | receiveFederatedDm (now : Int) (req : FederatedDmRequest)
  | approveUser (user targetKey : String)
  | adminApprove (now : Int) (user id : String)

def GateCall.exec (lib : Crates) (codec : DmCodec) : GateCall → AppState → AppState
  | .login call, s => call.exec lib s
  | .request env req, s => ((authUser lib env req).run s).2
  | .createConversation id now user req, s => ((Hub.createConversation id now user req).run s).2
  | .sendDm env user conversationId req, s =>
      ((Hub.sendDm lib codec env user conversationId req).run s).2
  | .receiveFederatedDm now req, s =>
      ((Hub.receiveFederatedDm lib.ed25519 codec now req).run s).2
  | .approveUser user targetKey, s => ((approveUserRequest user targetKey).run s).2
  | .adminApprove now user id, s => ((Hub.adminApprove now user id).run s).2

/-- An administrator approves the key, as a member or as the new key of a
rotation. -/
def GateCall.Approves (key : String) : GateCall → AppState → Prop
  | .approveUser user targetKey, s =>
      targetKey = key ∧ (s.db.userPermissions user).has admin = true
  | .adminApprove _ user id, s =>
      (s.db.userPermissions user).has admin = true ∧
        ∃ row, s.db.rotationRow id = some row ∧ row.status.Open ∧ row.newPubkey = key
  | _, _ => False

/-- Whenever the extractor lets the key in on a path that is not open to pending
members, the key has been approved before. -/
def ApprovalGate (lib : Crates) (codec : DmCodec) (key : String) (calls : List GateCall)
    (s : AppState) : Prop :=
  ∀ first env req rest, calls = first ++ .request env req :: rest →
    req.path ∉ pendingAllowedPaths →
    ((authUser lib env req).run (runAll (GateCall.exec lib codec) first s)).1 = .ok key →
    ∃ before call after, first = before ++ call :: after ∧
      call.Approves key (runAll (GateCall.exec lib codec) before s)

/-- A call other than a login that writes a row for the key if there is none: a
request with a farm token of the key, a new conversation with the key among its
members, or a delivery that is stored and comes from the key, or creates a
conversation of which it is a member. -/
def GateCall.Enters (lib : Crates) (key : String) : GateCall → AppState → Prop
  | .request env req, s =>
      ∃ token, bearerToken req = .ok token ∧ isFarmToken token = true ∧
        ((farmIdentity lib env token).run s).1 = .ok key
  | .createConversation _ _ _ req, _ => key ∈ req.members
  | .receiveFederatedDm _ req, s =>
      s.db.dmMessages.has req.messageId = false ∧ s.db.blockedBy req.sender req.members = false ∧
        (req.sender = key ∨
          (s.db.conversations.has req.conversationId = false ∧ key ∈ req.members))
  | _, _ => False

/-- Only a login enters the key. -/
def GateCall.LeavesEntryToLogin (lib : Crates) (key : String) (call : GateCall) (s : AppState) :
    Prop :=
  s.db.users.has key = false → ¬ call.Enters lib key s

/-! ## Keys that wait -/

/-- New members need an approval; the key belongs to no bot and, if it has a row,
it waits. Under the assumption `named` it has one. -/
structure Gated (key : String) (named : Prop) (db : Db) : Prop where
  required : db.NeedsApproval
  bots : ∀ row ∈ db.botTokens.rows, row.publicKey ≠ key
  waiting : ∀ row, db.users.find? key = some row →
    row.approvalStatus = .pending ∧ row.isBot = false
  entered : named → db.users.has key = true

/-- Keys that wait go on waiting. -/
def KeepsGated (key : String) (named : Prop) (s t : AppState) : Prop :=
  Gated key named s.db → Gated key named t.db

section Gated

variable {named : Prop} {other : String} {now : Int}

theorem KeepsGated.refl (s : AppState) : KeepsGated key named s s :=
  fun h => h

theorem KeepsGated.trans (a b c : AppState) (hab : KeepsGated key named a b)
    (hbc : KeepsGated key named b c) : KeepsGated key named a c :=
  fun h => hbc (hab h)

/-- The rows of all members stay, and that of the key keeps its standing. -/
theorem Gated.of_users {db' : Db} (h : Gated key named db)
    (hsettings : db'.hubSettings = db.hubSettings) (hbots : db'.botTokens = db.botTokens)
    (hmembers : ∀ other, db.users.has other = true → db'.users.has other = true)
    (hrow : ∀ row, db'.users.find? key = some row → row.approvalStatus = .pending ∧
      row.isBot = false) : Gated key named db' where
  required := by
    refine ⟨?_, fun hempty => ?_⟩
    · rw [Db.setting, hsettings]
      exact h.required.1
    · obtain ⟨row, hrow⟩ := List.exists_mem_of_ne_nil _ h.required.2
      have hhas := hmembers row.publicKey (Table.has_iff.mpr ⟨row, hrow, rfl⟩)
      obtain ⟨row', hrow', -⟩ := Table.has_iff.mp hhas
      rw [hempty] at hrow'
      cases hrow'
  bots := by
    rw [hbots]
    exact h.bots
  waiting := hrow
  entered := fun hnamed => hmembers key (h.entered hnamed)

theorem Gated.congr {db' : Db} (h : Gated key named db) (husers : db'.users = db.users)
    (hsettings : db'.hubSettings = db.hubSettings) (hbots : db'.botTokens = db.botTokens) :
    Gated key named db' := by
  apply h.of_users hsettings hbots
  · rw [husers]
    exact fun _ h => h
  · rw [husers]
    exact h.waiting

theorem has_iff_find? {key : String} : db.users.has key = true ↔ db.users.find? key ≠ none := by
  rw [Ne, Table.find?_eq_none_iff, ← Table.has_eq_false_iff, Bool.not_eq_false]

/-- A stub that is not for the key, or that finds a row of the key. -/
theorem Gated.insertUserOrIgnore (h : Gated key named db) (hother : other = key → named) :
    Gated key named (insertUserOrIgnore other now db) := by
  refine h.of_users rfl rfl ?_ ?_
  · intro member hmember
    rw [has_iff_find?] at hmember ⊢
    unfold Hub.insertUserOrIgnore
    dsimp only
    rw [Table.find?_insertOrIgnore]
    split_ifs
    · simp
    · exact hmember
  · intro row hrow
    unfold Hub.insertUserOrIgnore at hrow
    dsimp only at hrow
    rw [Table.find?_insertOrIgnore] at hrow
    split_ifs at hrow with hkey
    · have hentered := h.entered (hother hkey.symm)
      rw [has_iff_find?, Option.ne_none_iff_exists'] at hentered
      obtain ⟨old, hold⟩ := hentered
      rw [hold] at hrow
      cases hrow
      exact h.waiting old hold
    · exact h.waiting row hrow

theorem Gated.upsertFarmUser (h : Gated key named db) (hother : other = key → named) :
    Gated key named (upsertFarmUser other now db) := by
  refine h.of_users rfl rfl ?_ ?_
  · intro member hmember
    rw [has_iff_find?] at hmember ⊢
    unfold Hub.upsertFarmUser
    dsimp only
    rw [Table.find?_upsert]
    split_ifs
    · simp
    · exact hmember
  · intro row hrow
    unfold Hub.upsertFarmUser at hrow
    dsimp only at hrow
    rw [Table.find?_upsert] at hrow
    split_ifs at hrow with hkey
    · have hentered := h.entered (hother hkey.symm)
      rw [has_iff_find?, Option.ne_none_iff_exists'] at hentered
      obtain ⟨old, hold⟩ := hentered
      rw [hold] at hrow
      cases hrow
      exact h.waiting old hold
    · exact h.waiting row hrow

/-- A member who logs in keeps their standing, and a new one has to wait. -/
theorem Gated.upsertUser (h : Gated key named db) (canonical : String) (now : Int)
    (master : Option String) :
    Gated key named (upsertUser canonical now db.newMemberStatus master db) := by
  have hpending : db.newMemberStatus = .pending := by
    unfold Db.newMemberStatus initialStatus
    rw [if_pos]
    exact ⟨by simpa using h.required.1, List.length_pos_iff.mpr h.required.2⟩
  refine h.of_users rfl rfl ?_ ?_
  · intro member hmember
    rw [has_iff_find?] at hmember ⊢
    rw [find?_upsertUser]
    split_ifs
    · simp
    · exact hmember
  · intro row hrow
    rw [find?_upsertUser] at hrow
    split_ifs at hrow
    · cases hold : db.users.find? key with
      | none =>
          rw [hold] at hrow
          cases hrow
          exact ⟨hpending, rfl⟩
      | some old =>
          rw [hold] at hrow
          cases hrow
          exact h.waiting old hold
    · exact h.waiting row hrow

theorem Gated.updateUser (h : Gated key named db) {f : UserRow → UserRow}
    {hkey : ∀ row, (f row).publicKey = row.publicKey} (hother : other ≠ key) :
    Gated key named (updateUser other f hkey db) := by
  refine h.of_users rfl rfl ?_ ?_
  · intro member hmember
    rw [has_iff_find?] at hmember ⊢
    unfold Hub.updateUser
    dsimp only
    rw [Table.find?_update]
    simpa using hmember
  · intro row hrow
    unfold Hub.updateUser at hrow
    dsimp only at hrow
    rw [Table.find?_update, Option.map_eq_some_iff] at hrow
    obtain ⟨old, hold, rfl⟩ := hrow
    have hkept : old.publicKey = key := (Table.find?_eq_some_iff.mp hold).2
    have hne : old.publicKey ≠ other := by
      rw [hkept]
      exact hother.symm
    simp only [hne, decide_false, Bool.false_eq_true, if_false]
    exact h.waiting old hold

end Gated

/-! ## What the calls do to a key that waits -/

section Calls

variable {named : Prop}

/-- A statement that leaves members, settings and bot tokens alone. -/
theorem keepsGated_of_eq (husers : t.db.users = s.db.users)
    (hsettings : t.db.hubSettings = s.db.hubSettings) (hbots : t.db.botTokens = s.db.botTokens) :
    KeepsGated key named s t :=
  fun h => h.congr husers hsettings hbots

theorem LateFrame.keepsGated (h : LateFrame s t) : KeepsGated key named s t :=
  keepsGated_of_eq h.users h.hubSettings h.botTokens

/-! ### Logins -/

theorem changes_registerBot_gated {env : LoginEnv} {canonical : String} (hne : canonical ≠ key)
    (botMeta : BotMeta) :
    (registerBot lib env canonical botMeta).Changes (KeepsGated key named) := by
  apply Prog.Changes.bind KeepsGated.trans
  · exact changes_write fun s => keepsGated_of_eq rfl rfl rfl
  intro _
  apply Prog.Changes.bind KeepsGated.trans
  · apply Prog.changes_whenSome KeepsGated.refl
    intro cmds
    apply Prog.Changes.bind KeepsGated.trans
    · exact changes_write fun s => keepsGated_of_eq rfl rfl rfl
    intro _
    apply Prog.changes_each KeepsGated.refl KeepsGated.trans
    intro cmd
    apply changes_execute KeepsGated.refl
    intro s db hdb
    unfold insertBotCommand at hdb
    split at hdb
    · cases hdb
    · cases hdb
      exact keepsGated_of_eq rfl rfl rfl
  intro _
  exact changes_write fun s h => h.updateUser hne

/-- The bot gate stops a key that is not known as a bot. -/
theorem botGate_gated {env : LoginEnv} {req : VerifyRequest} (canonical : String) :
    (botGate lib env req canonical).Changes (KeepsGated key named) := by
  intro s h
  by_cases hcanonical : canonical = key
  · have hstatus : s.db.botStatus canonical = none := by
      rw [Db.botStatus, hcanonical]
      cases hrow : s.db.users.find? key with
      | none => rfl
      | some row => simp [(h.waiting row hrow).2]
    unfold botGate Prog.when
    split_ifs
    · rw [Prog.run_bind_of_ok (run_fetch _ s), hstatus,
        Prog.run_bind_of_error (Prog.run_ensure_of_neg (by simp) _ s)]
      exact h
    · exact h
  · revert h
    revert s
    apply Prog.changes_when KeepsGated.refl
    apply Prog.Changes.bind KeepsGated.trans (Prog.changes_query KeepsGated.refl _)
    intro _
    apply Prog.Changes.bind KeepsGated.trans (Prog.changes_ensure KeepsGated.refl)
    intro _
    apply Prog.Changes.bind KeepsGated.trans
    · exact changes_write fun s h => h.updateUser hcanonical
    intro _
    exact Prog.changes_whenSome KeepsGated.refl (changes_registerBot_gated hcanonical)

theorem completeLogin_gated (env : LoginEnv) (req : VerifyRequest) (canonical : String)
    (master : Option String) (minLevel : ℕ) :
    (completeLogin env req canonical master minLevel).Changes (KeepsGated key named) := by
  intro s h
  have henrolled := h.upsertUser canonical env.now master
  unfold completeLogin
  rw [Prog.run_bind', run_enroll]
  cases s.db.sessions.insert? ⟨env.token, canonical, env.now⟩ with
  | none => exact henrolled
  | some sessions =>
      apply (changes_late env req canonical minLevel _).keepsGated
      exact henrolled.congr rfl rfl rfl

theorem verify_gated (env : LoginEnv) (req : VerifyRequest) :
    (verify lib env req).Changes (KeepsGated key named) := by
  apply Prog.Changes.bind KeepsGated.trans
  · apply Prog.Changes.bind KeepsGated.trans
    · intro s
      rw [run_answerChallenge]
      exact keepsGated_of_eq rfl rfl rfl
    intro _
    apply Prog.Changes.bind KeepsGated.trans
    · intro s
      rw [run_resolveCanonicalIdentity]
      exact KeepsGated.refl s
    intro _
    apply Prog.Changes.bind KeepsGated.trans (botGate_gated _)
    intro _
    apply Prog.Changes.bind KeepsGated.trans
    · intro s
      rw [run_admissionGates]
      exact KeepsGated.refl s
    exact fun _ => Prog.changes_ret KeepsGated.refl _
  · exact fun _ => completeLogin_gated env req _ _ _

theorem login_gated (call : LoginCall) (s : AppState) :
    KeepsGated key named s (call.exec lib s) := by
  cases call with
  | challenge challengeBytes instant publicKey => exact keepsGated_of_eq rfl rfl rfl
  | verify env req => exact verify_gated env req s

/-! ### The extractor -/

theorem assignFarmRoles_gated (now : Int) (publicKey : String) :
    (assignFarmRoles now publicKey).Changes (KeepsGated key named) := by
  have hrole : ∀ (f : Db → Except SqlError Db),
      (∀ s db, f s.db = .ok db → LateFrame s (s.withDb db)) →
      (writeIgnoring f).Changes (KeepsGated key named) := by
    intro f hf
    apply changes_write
    intro s
    cases hrole : f s.db with
    | error e => exact KeepsGated.refl s
    | ok db => exact (hf s db hrole).keepsGated
  apply Prog.Changes.bind KeepsGated.trans (Prog.changes_query KeepsGated.refl _)
  intro _
  apply Prog.changes_when KeepsGated.refl
  apply Prog.Changes.bind KeepsGated.trans (Prog.changes_query KeepsGated.refl _)
  intro _
  apply Prog.Changes.bind KeepsGated.trans
  · apply Prog.changes_when KeepsGated.refl
    exact hrole _ fun s db => lateFrame_insertUserRole
  intro _
  exact hrole _ fun s db => lateFrame_insertUserRoleOrIgnore

theorem farmAdmission_gated {publicKey : String} (hnamed : publicKey = key → named) (now : Int)
    (path : String) : (farmAdmission now path publicKey).Changes (KeepsGated key named) := by
  apply Prog.Changes.bind KeepsGated.trans
  · exact changes_write fun s h => h.upsertFarmUser hnamed
  intro _
  apply Prog.Changes.bind KeepsGated.trans (assignFarmRoles_gated now publicKey)
  intro _
  apply Prog.Changes.bind KeepsGated.trans (Prog.changes_query KeepsGated.refl _)
  intro _
  apply Prog.Changes.bind KeepsGated.trans (Prog.changes_ensure KeepsGated.refl)
  intro _
  apply Prog.Changes.bind KeepsGated.trans (Prog.changes_query KeepsGated.refl _)
  exact fun _ => Prog.changes_ensure KeepsGated.refl

/-- A key that waits is not let in by the farm, once it has a row. -/
theorem farmAdmission_refuses (h : Gated key named s.db) (hnamed : named) (now : Int)
    (hpath : path ∉ pendingAllowedPaths) : ((farmAdmission now path key).run s).1 ≠ .ok () := by
  intro hok
  rcases hrun : (farmAdmission now path key).run s with ⟨r, t⟩
  rw [hrun] at hok
  dsimp only at hok
  subst hok
  have hstart : Gated key named (upsertFarmUser key now s.db) := h.upsertFarmUser fun _ => hnamed
  unfold farmAdmission at hrun
  rw [Prog.run_bind_of_ok (run_write _ s)] at hrun
  rcases Prog.run_bind_cases hrun with ⟨e, -, he⟩ | ⟨_, u, hroles, hrun⟩
  · cases he
  have hgated : Gated key named u.db := by
    have hkept : KeepsGated key named _ _ :=
      assignFarmRoles_gated now key (s.withDb (upsertFarmUser key now s.db))
    rw [hroles] at hkept
    exact hkept hstart
  obtain ⟨banned, -, hrun⟩ := (reads_fetch _).run_bind_ok hrun
  obtain ⟨-, -, hrun⟩ := Prog.reads_ensure.run_bind_ok hrun
  rw [Prog.run_bind_of_ok (run_fetch _ u)] at hrun
  have hstatus : ((u.db.users.find? key).map (·.approvalStatus)).getD .approved = .pending := by
    obtain ⟨row, hrow⟩ := Option.ne_none_iff_exists'.mp
      (has_iff_find?.mp (hgated.entered hnamed))
    rw [hrow]
    exact (hgated.waiting row hrow).1
  exact hpath (of_run_ensure hrun hstatus)

/-- The extractor keeps a key waiting, unless it enters the key. -/
theorem authUser_gated {env : AuthEnv} {req : AuthRequest} (h : Gated key False s.db)
    (hentry : (GateCall.request env req).LeavesEntryToLogin lib key s) :
    Gated key False ((authUser lib env req).run s).2.db ∧
      (req.path ∉ pendingAllowedPaths → ((authUser lib env req).run s).1 ≠ .ok key) := by
  unfold authUser
  rw [Prog.run_bind', Prog.run_ofExcept]
  cases htoken : bearerToken req with
  | error e => exact ⟨h, fun _ => by simp⟩
  | ok token =>
      dsimp only
      by_cases hfarm : isFarmToken token = true
      · rw [if_pos hfarm, Prog.run_bind']
        have hdb : ((farmIdentity lib env token).run s).2.db = s.db :=
          db_farmIdentity lib env token s
        rcases hidentity : (farmIdentity lib env token).run s with ⟨e | publicKey, u⟩
        · rw [hidentity] at hdb
          exact ⟨by dsimp only at hdb ⊢; rwa [hdb], fun _ => by simp⟩
        · rw [hidentity] at hdb
          dsimp only at hdb ⊢
          -- A token of the key is only accepted here if the key has a row.
          have hgated : Gated key (publicKey = key) u.db := by
            rw [hdb]
            refine ⟨h.required, h.bots, h.waiting, fun hkey => ?_⟩
            by_contra hnone
            apply hentry (by simpa using hnone)
            exact ⟨token, htoken, hfarm, by rw [hidentity, hkey]⟩
          have hafter := farmAdmission_gated (fun hkey => hkey) env.now req.path u hgated
          rw [Prog.run_bind']
          rcases hadmitted : (farmAdmission env.now req.path publicKey).run u with ⟨e | _, v⟩
          · rw [hadmitted] at hafter
            exact ⟨⟨hafter.required, hafter.bots, hafter.waiting, False.elim⟩, fun _ => by simp⟩
          · rw [hadmitted] at hafter
            refine ⟨⟨hafter.required, hafter.bots, hafter.waiting, False.elim⟩, fun hpath hok => ?_⟩
            cases hok
            exact farmAdmission_refuses hgated rfl env.now hpath (by rw [hadmitted])
      · rw [if_neg hfarm, run_opaqueIdentity]
        refine ⟨h, fun hpath hok => ?_⟩
        unfold Db.opaqueAnswer at hok
        cases hsession : s.db.sessionUser token with
        | some owner =>
            rw [hsession] at hok
            obtain ⟨publicKey, status⟩ := owner
            dsimp only [Option.or] at hok
            split_ifs at hok with hrevoked hpending
            cases hok
            obtain ⟨session, -, hjoin⟩ := Option.bind_eq_some_iff.mp hsession
            obtain ⟨row, hrow, heq⟩ := Option.map_eq_some_iff.mp hjoin
            cases heq
            exact hpending ⟨(h.waiting row hrow).1, hpath⟩
        | none =>
            rw [hsession, Option.none_or] at hok
            cases hbot : s.db.botTokens.find? token with
            | none => simp [Db.botTokenUser, hbot] at hok
            | some bot =>
                rw [Db.botTokenUser, hbot] at hok
                dsimp only [Option.map] at hok
                split_ifs at hok with hrevoked hpending
                cases hok
                exact h.bots bot (Table.find?_eq_some_iff.mp hbot).1 rfl

/-! ### Direct messages -/

theorem insertConversation_gated {row : ConversationRow} {db' : Db}
    (h : insertConversation row s.db = .ok db') : KeepsGated key named s (s.withDb db') := by
  obtain ⟨-, -, hdb⟩ := insertConversation_eq_ok h
  rw [hdb]
  exact keepsGated_of_eq rfl rfl rfl

theorem insertMember_gated {row : ConversationMemberRow} {db' : Db}
    (h : insertMember row s.db = .ok db') : KeepsGated key named s (s.withDb db') := by
  obtain ⟨-, -, hdb⟩ := insertMember_eq_ok h
  rw [hdb]
  exact keepsGated_of_eq rfl rfl rfl

theorem insertMemberOrIgnore_gated {row : ConversationMemberRow} {db' : Db}
    (h : insertMemberOrIgnore row s.db = .ok db') : KeepsGated key named s (s.withDb db') := by
  rcases insertMemberOrIgnore_eq_ok h with hsame | hinsert
  · rw [hsame]
    exact KeepsGated.refl s
  · exact insertMember_gated hinsert

theorem insertDmMessage_gated {row : DmMessageRow} {db' : Db}
    (h : insertDmMessage row s.db = .ok db') : KeepsGated key named s (s.withDb db') := by
  obtain ⟨-, -, -, hdb⟩ := insertDmMessage_eq_ok h
  rw [hdb]
  exact keepsGated_of_eq rfl rfl rfl

theorem insertOutboxOrIgnore_gated {row : DmOutboxRow} {db' : Db}
    (h : insertOutboxOrIgnore row s.db = .ok db') : KeepsGated key named s (s.withDb db') := by
  rcases insertOutboxOrIgnore_eq_ok h with ⟨hsame, -⟩ | ⟨-, -, hdb⟩
  · rw [hsame]
    exact KeepsGated.refl s
  · rw [hdb]
    exact keepsGated_of_eq rfl rfl rfl

/-- Looking for a conversation of two. -/
theorem reads_lookupPair (user : String) (members : List String) :
    (lookupPair user members).Reads := by
  have hpair : ∀ other convs, (firstPair user other convs).Reads := by
    intro other convs
    induction convs with
    | nil => exact fun _ => rfl
    | cons convId rest ih =>
        apply Prog.Reads.bind (reads_fetch _)
        intro count
        split_ifs
        · apply Prog.Reads.bind (reads_fetch _)
          intro conv
          cases conv <;> exact fun _ => rfl
        · exact ih
  unfold lookupPair
  split
  · exact Prog.Reads.bind (reads_fetch _) (hpair _)
  · exact fun _ => rfl

theorem createConversation_gated {id : String} {now : Int} {user : String}
    {req : CreateConversationRequest} (hnamed : key ∈ req.members → named) :
    (createConversation id now user req).Changes (KeepsGated key named) := by
  apply Prog.Changes.bind KeepsGated.trans (Prog.changes_ensure KeepsGated.refl)
  intro _
  apply Prog.Changes.bind KeepsGated.trans
  · exact Prog.Reads.changes KeepsGated.refl (reads_lookupPair user req.members)
  intro existing
  cases existing with
  | some conv => exact Prog.changes_ret KeepsGated.refl _
  | none =>
      apply Prog.Changes.bind KeepsGated.trans
      · exact changes_execute KeepsGated.refl fun s db => insertConversation_gated
      intro _
      apply Prog.Changes.bind KeepsGated.trans
      · exact changes_execute KeepsGated.refl fun s db => insertMember_gated
      intro _
      apply Prog.Changes.bind KeepsGated.trans
      · apply Prog.changes_each_mem KeepsGated.refl KeepsGated.trans
        intro member hmember
        apply Prog.Changes.bind KeepsGated.trans
        · exact changes_write fun s h => h.insertUserOrIgnore fun heq => hnamed (heq ▸ hmember)
        · exact fun _ => changes_execute KeepsGated.refl fun s db => insertMember_gated
      · exact fun _ => Prog.changes_ret KeepsGated.refl _

/-- A delivery to another hub does not touch the members here. -/
theorem deliverFederatedDm_gated (env : DeliveryEnv) (retry : Bool) (hubUrl : String)
    (envelope : FederatedDmRequest) :
    (deliverFederatedDm lib env retry hubUrl envelope).Changes (KeepsGated key named) := by
  have hpost : ∀ token,
      (postFederatedDm env hubUrl token envelope).Changes (KeepsGated key named) := by
    intro token
    unfold postFederatedDm
    cases env.post token envelope with
    | none => exact Prog.changes_ret KeepsGated.refl _
    | some status =>
        dsimp only
        split_ifs
        · apply Prog.Changes.bind KeepsGated.trans
          · exact Prog.changes_exec fun s => keepsGated_of_eq rfl rfl rfl
          · exact fun _ => Prog.changes_ret KeepsGated.refl _
        · exact Prog.changes_ret KeepsGated.refl _
  have hlogin : (loginToPeer lib env hubUrl).Changes (KeepsGated key named) := by
    apply Prog.Changes.bind KeepsGated.trans (Prog.changes_query KeepsGated.refl _)
    intro identity
    split
    · exact Prog.changes_ret KeepsGated.refl _
    · split
      · exact Prog.changes_ret KeepsGated.refl _
      · apply Prog.Changes.bind KeepsGated.trans
        · exact changes_write fun s => keepsGated_of_eq rfl rfl rfl
        intro _
        apply Prog.Changes.bind KeepsGated.trans
        · exact Prog.changes_exec fun s => keepsGated_of_eq rfl rfl rfl
        · exact fun _ => Prog.changes_ret KeepsGated.refl _
  apply Prog.Changes.bind KeepsGated.trans
  · exact Prog.changes_exec fun s => keepsGated_of_eq rfl rfl rfl
  intro _
  apply Prog.Changes.bind KeepsGated.trans
  · apply Prog.Changes.bind KeepsGated.trans (Prog.changes_query KeepsGated.refl _)
    intro peerKey
    cases peerKey with
    | none => exact Prog.changes_ret KeepsGated.refl _
    | some peer => exact Prog.changes_query KeepsGated.refl _
  intro cached
  cases cached with
  | some token => exact hpost token
  | none =>
      apply Prog.Changes.bind KeepsGated.trans hlogin
      intro login
      cases login with
      | error e => exact Prog.changes_ret KeepsGated.refl _
      | ok token => exact hpost token

theorem deliverTo_gated (now : Int) (envelope : FederatedDmRequest) (hubUrl : String)
    (env : DeliveryEnv) :
    (deliverTo lib now envelope hubUrl env).Changes (KeepsGated key named) := by
  apply Prog.Changes.bind KeepsGated.trans
  · exact changes_execute KeepsGated.refl fun s db => insertOutboxOrIgnore_gated
  intro _
  apply Prog.Changes.bind KeepsGated.trans (deliverFederatedDm_gated env false hubUrl envelope)
  intro result
  cases result with
  | ok _ => exact changes_write fun s => keepsGated_of_eq rfl rfl rfl
  | error e => exact changes_write fun s => keepsGated_of_eq rfl rfl rfl

theorem reads_deliveryUrls (m : ConvMember) : (deliveryUrls codec m).Reads := by
  apply Prog.Reads.bind (reads_fetch _)
  intro master
  cases master with
  | none => exact fun _ => rfl
  | some mpk =>
      apply Prog.Reads.bind (reads_fetch _)
      exact fun _ _ => rfl

/-- A message that is sent enters nobody. -/
theorem sendDm_gated (env : SendEnv) (user conversationId : String) (req : SendDmRequest) :
    (sendDm lib codec env user conversationId req).Changes (KeepsGated key named) := by
  apply Prog.Changes.bind KeepsGated.trans (Prog.changes_query KeepsGated.refl _)
  intro members
  apply Prog.Changes.bind KeepsGated.trans (Prog.changes_ensure KeepsGated.refl)
  intro _
  apply Prog.Changes.bind KeepsGated.trans
  · intro s
    rw [run_isBlockedBy]
    exact KeepsGated.refl s
  intro blocked
  split_ifs
  · exact Prog.changes_ret KeepsGated.refl _
  apply Prog.Changes.bind KeepsGated.trans (Prog.changes_query KeepsGated.refl _)
  intro convType
  apply Prog.Changes.bind KeepsGated.trans (Prog.changes_ofExcept KeepsGated.refl _)
  intro dm
  apply Prog.Changes.bind KeepsGated.trans
  · exact changes_execute KeepsGated.refl fun s db => insertDmMessage_gated
  intro _
  apply Prog.Changes.bind KeepsGated.trans (Prog.changes_query KeepsGated.refl _)
  intro senderName
  apply Prog.Changes.bind KeepsGated.trans
  · exact Prog.changes_exec fun s => keepsGated_of_eq rfl rfl rfl
  intro _
  apply Prog.Changes.bind KeepsGated.trans
  · apply Prog.changes_each KeepsGated.refl KeepsGated.trans
    intro entry
    unfold federateTo
    split_ifs
    · exact Prog.changes_ret KeepsGated.refl _
    · apply Prog.Changes.bind KeepsGated.trans
      · exact Prog.Reads.changes KeepsGated.refl (reads_deliveryUrls entry.1)
      intro urls
      apply Prog.changes_each KeepsGated.refl KeepsGated.trans
      exact fun url => deliverTo_gated _ _ _ _
  · exact fun _ => Prog.changes_ret KeepsGated.refl _

/-- A delivery that is stored enters its sender, and the members of a conversation
that was not known. -/
theorem receiveFederatedDm_gated {now : Int} {req : FederatedDmRequest}
    (h : Gated key named s.db)
    (hnamed : (GateCall.receiveFederatedDm now req).Enters lib key s → named) :
    Gated key named ((receiveFederatedDm lib.ed25519 codec now req).run s).2.db := by
  by_cases hignored : s.db.dmMessages.has req.messageId = true ∨
      s.db.blockedBy req.sender req.members = true
  · rw [run_receive_ignored hignored]
    exact h
  rw [not_or, Bool.not_eq_true, Bool.not_eq_true] at hignored
  have hstored : (storeReceived lib.ed25519 codec now req).Changes (KeepsGated key named) := by
    apply Prog.Changes.bind KeepsGated.trans
    · exact changes_write fun s h =>
        h.insertUserOrIgnore fun heq => hnamed ⟨hignored.1, hignored.2, .inl heq⟩
    intro _
    apply Prog.Changes.bind KeepsGated.trans (Prog.changes_ofExcept KeepsGated.refl _)
    intro row
    apply Prog.Changes.bind KeepsGated.trans
    · exact changes_execute KeepsGated.refl fun s db => insertDmMessage_gated
    intro _
    apply Prog.Changes.bind KeepsGated.trans (Prog.changes_query KeepsGated.refl _)
    intro senderName
    apply Prog.Changes.bind KeepsGated.trans
    · exact Prog.changes_exec fun s => keepsGated_of_eq rfl rfl rfl
    · exact fun _ => Prog.changes_ret KeepsGated.refl _
  have hadopted : (Prog.when (s.db.conversations.has req.conversationId = false)
      (adoptConversation req)).Changes (KeepsGated key named) := by
    unfold Prog.when
    split_ifs with hconv
    · apply Prog.Changes.bind KeepsGated.trans
      · exact changes_execute KeepsGated.refl fun s db => insertConversation_gated
      intro _
      apply Prog.changes_each_mem KeepsGated.refl KeepsGated.trans
      intro member hmember
      apply Prog.Changes.bind KeepsGated.trans
      · exact changes_write fun s h => h.insertUserOrIgnore fun heq =>
          hnamed ⟨hignored.1, hignored.2, .inr ⟨hconv, heq ▸ hmember⟩⟩
      · exact fun _ => changes_execute KeepsGated.refl fun s db => insertMemberOrIgnore_gated
    · exact Prog.changes_ret KeepsGated.refl _
  rw [receiveFederatedDm, Prog.run_bind_of_ok (run_fetch _ s), hignored.1,
    if_neg Bool.false_ne_true, Prog.run_bind_of_ok (run_isBlockedBy _ _ s), hignored.2,
    if_neg Bool.false_ne_true, Prog.run_bind_of_ok (run_fetch _ s)]
  exact Prog.Changes.bind KeepsGated.trans hadopted (fun _ => hstored) s h

/-! ### Approvals -/

theorem require_eq_ok_iff {perms : UserPermissions} {permission : String} :
    perms.require permission = .ok () ↔ perms.has permission = true := by
  unfold UserPermissions.require
  split_ifs with h <;> simp [h]

/-- Approvals of others. -/
theorem approveUserRequest_gated {user targetKey : String} (h : Gated key named s.db)
    (happroves : ¬ (GateCall.approveUser user targetKey).Approves key s) :
    Gated key named ((approveUserRequest user targetKey).run s).2.db := by
  rw [approveUserRequest, Prog.run_bind_of_ok (run_userPermissions user s), Prog.run_bind',
    Prog.run_ofExcept]
  cases hrequire : (s.db.userPermissions user).require admin with
  | error e => exact h
  | ok _ =>
      have hne : targetKey ≠ key :=
        fun heq => happroves ⟨heq, require_eq_ok_iff.mp hrequire⟩
      exact h.updateUser hne

theorem transferRoles_gated {newPubkey oldPubkey : String} {now : Int} {db' : Db}
    (h : transferRoles newPubkey oldPubkey now s.db = .ok db') :
    KeepsGated key named s (s.withDb db') := by
  obtain ⟨⟨userRoles, rfl⟩, -⟩ := transferRoles_ok h
  exact keepsGated_of_eq rfl rfl rfl

theorem adminApprove_gated {now : Int} {user id : String} (h : Gated key named s.db)
    (happroves : ¬ (GateCall.adminApprove now user id).Approves key s) :
    Gated key named ((adminApprove now user id).run s).2.db := by
  rw [adminApprove, Prog.run_bind_of_ok (run_userPermissions user s), Prog.run_bind',
    Prog.run_ofExcept]
  cases hrequire : (s.db.userPermissions user).require admin with
  | error e => exact h
  | ok _ =>
      dsimp only
      rw [Prog.run_bind', fetchRotationRequest, Prog.run_bind_of_ok (run_fetch _ s),
        Prog.run_ofExcept]
      cases hrow : s.db.rotationRow id with
      | none => exact h
      | some row =>
          dsimp only [Option.elim]
          by_cases hopen : row.status.Open
          · rw [Prog.run_bind_of_ok (Prog.run_ensure_of_pos hopen _ s)]
            have hne : row.newPubkey ≠ key := fun heq =>
              happroves ⟨require_eq_ok_iff.mp hrequire, row, hrow, hopen, heq⟩
            have hrest : (do
                write (insertUserOrIgnore row.newPubkey now)
                execute (transferRoles row.newPubkey row.oldPubkey now)
                write (deleteSessions row.oldPubkey)
                write (decideRequest id .approved now user)
                pure StatusCode.ok : Handler StatusCode).Changes (KeepsGated key named) := by
              apply Prog.Changes.bind KeepsGated.trans
              · exact changes_write fun s h =>
                  h.insertUserOrIgnore fun heq => absurd heq hne
              intro _
              apply Prog.Changes.bind KeepsGated.trans
              · exact changes_execute KeepsGated.refl fun s db => transferRoles_gated
              intro _
              apply Prog.Changes.bind KeepsGated.trans
              · exact changes_write fun s => keepsGated_of_eq rfl rfl rfl
              intro _
              apply Prog.Changes.bind KeepsGated.trans
              · exact changes_write fun s => keepsGated_of_eq rfl rfl rfl
              · exact fun _ => Prog.changes_ret KeepsGated.refl _
            exact hrest s h
          · rw [Prog.run_bind_of_error (Prog.run_ensure_of_neg hopen _ s)]
            exact h

/-! ## The gate -/

/-- Whatever is called, a key that waits goes on waiting until it is approved. -/
theorem GateCall.exec_gated (call : GateCall) (h : Gated key False s.db)
    (hentry : call.LeavesEntryToLogin lib key s) (happroves : ¬ call.Approves key s) :
    Gated key False (call.exec lib codec s).db := by
  -- Whoever names the key finds it entered.
  have hnamed : Gated key (call.Enters lib key s) s.db := by
    refine ⟨h.required, h.bots, h.waiting, fun henters => ?_⟩
    by_contra hnone
    exact hentry (by simpa using hnone) henters
  have hforget : ∀ {db : Db}, Gated key (call.Enters lib key s) db → Gated key False db :=
    fun h => ⟨h.required, h.bots, h.waiting, False.elim⟩
  cases call with
  | login call => exact login_gated call s h
  | request env req => exact (authUser_gated h hentry).1
  | createConversation id now user req =>
      exact hforget (createConversation_gated (fun hmem => hmem) s hnamed)
  | sendDm env user conversationId req => exact sendDm_gated env user conversationId req s h
  | receiveFederatedDm now req =>
      exact hforget (receiveFederatedDm_gated hnamed fun henters => henters)
  | approveUser user targetKey => exact approveUserRequest_gated h happroves
  | adminApprove now user id => exact adminApprove_gated h happroves

end Calls

/-- As long as nothing but the login enters a key, and no bot token names it, the
key is not let in before it is approved. -/
theorem approvalGate_of_entered_by_login (lib : Crates) (codec : DmCodec) (key : String)
    (calls : List GateCall) (s : AppState) (hrequired : s.db.NeedsApproval)
    (hnew : s.db.users.has key = false) (hbots : ∀ row ∈ s.db.botTokens.rows, row.publicKey ≠ key)
    (hentry : Along (GateCall.exec lib codec) (GateCall.LeavesEntryToLogin lib key) calls s) :
    ApprovalGate lib codec key calls s := by
  rintro first env req rest rfl hpath hadmitted
  by_contra hnone
  have hstart : Gated key False s.db := by
    refine ⟨hrequired, hbots, fun row hrow => ?_, False.elim⟩
    have hhas := Table.has_of_find? hrow
    rw [hnew] at hhas
    cases hhas
  obtain ⟨hfirst, hrequest, -⟩ := hentry.append
  -- No call of the first part approves the key, so it still waits.
  have hwaits : Along (GateCall.exec lib codec) (fun call s => ¬ call.Approves key s) first s :=
    along_iff_split.mpr fun before call after heq happroves =>
      hnone ⟨before, call, after, heq, happroves⟩
  have hgated : Gated key False (runAll (GateCall.exec lib codec) first s).db :=
    (hfirst.and hwaits).invariant (fun s : AppState => Gated key False s.db)
      (fun call s hok h => call.exec_gated h hok.1 hok.2) hstart
  exact (authUser_gated hgated hrequest).2 hpath hadmitted

/-- The hub of the phone, before the laptop comes. -/
def approvalHub : AppState :=
  runAll (LoginCall.exec deviceLib) (loginWith phoneAnswer none 10 1) { db := approvalDb }

def laptopRequest : GateCall :=
  .request farmEnv (.bearing (hexEncode (.replicate 32 2)) "/channels")

theorem approvalHub_start :
    approvalHub.db.NeedsApproval ∧ approvalHub.db.users.has laptopKey = false ∧
      ∀ row ∈ approvalHub.db.botTokens.rows, row.publicKey ≠ laptopKey := by
  rw [Db.NeedsApproval]
  decide +kernel

theorem laptopRequest_leavesEntryToLogin (s : AppState) :
    laptopRequest.LeavesEntryToLogin deviceLib laptopKey s := by
  rintro - ⟨token, htoken, hfarm, -⟩
  rw [bearerToken_bearing] at htoken
  cases htoken
  rw [isFarmToken_hexEncode] at hfarm
  cases hfarm

/-- The laptop logs in, is refused, is approved and let in. -/
def approvedLaptop : List GateCall :=
  (loginWith laptopAnswer none 20 2).map .login ++
    [laptopRequest, .approveUser phoneKey laptopKey, laptopRequest]

theorem approvalGate_approvedLaptop :
    ApprovalGate deviceLib chatCodec laptopKey approvedLaptop approvalHub := by
  refine approvalGate_of_entered_by_login _ _ _ _ _ approvalHub_start.1 approvalHub_start.2.1
    approvalHub_start.2.2 ?_
  exact ⟨fun _ h => h, fun _ h => h, laptopRequest_leavesEntryToLogin _, fun _ h => h,
    laptopRequest_leavesEntryToLogin _, trivial⟩

/-- The phone starts a conversation with the laptop's key before the laptop has
ever been seen. -/
def mentionedLaptop : List GateCall :=
  .createConversation "chat" 15 phoneKey ⟨[laptopKey], []⟩ ::
    (loginWith laptopAnswer none 20 2).map .login

/-- Nobody has approved the laptop, and yet it is let in. -/
theorem mentionedLaptop_admitted :
    approvalHub.db.NeedsApproval ∧ approvalHub.db.users.has laptopKey = false ∧
      (∀ row ∈ approvalHub.db.botTokens.rows, row.publicKey ≠ laptopKey) ∧
      ¬ ApprovalGate deviceLib chatCodec laptopKey (mentionedLaptop ++ [laptopRequest])
        approvalHub := by
  refine ⟨approvalHub_start.1, approvalHub_start.2.1, approvalHub_start.2.2, fun h => ?_⟩
  have hadmitted : ((authUser deviceLib farmEnv
      (.bearing (hexEncode (.replicate 32 2)) "/channels")).run
        (runAll (GateCall.exec deviceLib chatCodec) mentionedLaptop approvalHub)).1 =
          .ok laptopKey := by
    rw [run_authUser_session (isFarmToken_hexEncode _), run_opaqueIdentity]
    decide +kernel
  obtain ⟨before, call, after, hfirst, happroves⟩ :=
    h mentionedLaptop farmEnv _ [] rfl (by decide) hadmitted
  have hcall : call ∈ mentionedLaptop := by
    rw [hfirst]
    simp
  -- None of the calls is an approval of anybody.
  simp only [mentionedLaptop, loginWith, List.map_cons, List.map_nil, List.mem_cons,
    List.not_mem_nil, or_false] at hcall
  rcases hcall with rfl | rfl | rfl <;> exact happroves

end Voxply.Hub
