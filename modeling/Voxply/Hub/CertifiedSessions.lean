/-
# Sessions opened with a certificate

Runs of the hub in which every stored session that was opened with a
certificate is remembered together with that certificate.  A login checks the
signature of the certificate and that it is about the key that answered the
challenge.  It looks neither at the expiry of the certificate nor at the stored
revocations, and the session is filed under the canonical key, while the
extractor asks whether the key of the session is revoked.  Along runs in which
these differences do not show, certificates and revocations do what they are
for.
-/

import Voxply.Hub.Revocation

namespace Voxply.Hub

open Voxply.Math Voxply.Identity

variable {lib : Crates} {s t : AppState} {db : Db}

/-! ## Runs -/

/-- The foreign key of `sessions`. -/
def SessionsReferToUsers (s : AppState) : Prop :=
  ∀ row ∈ s.db.sessions.rows, s.db.registry row.publicKey ≠ none

/-- Anything else the hub does: it leaves revocations alone and keeps the
foreign key of `sessions`. -/
structure Elsewhere where
  change : AppState → AppState
  revocations : ∀ s, (change s).db.subkeyRevocations = s.db.subkeyRevocations
  references : ∀ s, SessionsReferToUsers s → SessionsReferToUsers (change s)

/-- The calls that bear on certificates and sessions, and all the others. -/
inductive AuthCall where
  | login (call : LoginCall)
  | renew (authEnv : AuthEnv) (env : LoginEnv) (header : AuthRequest) (req : VerifyRequest)
  | revoke (registeredAt : Int) (master : String) (entry : RevocationEntry)
  | other (elsewhere : Elsewhere)

/-- `renew` behind the extractor. -/
def renewRequest (lib : Crates) (authEnv : AuthEnv) (env : LoginEnv) (header : AuthRequest)
    (req : VerifyRequest) : Handler VerifyResponse := do
  let user ← authUser lib authEnv header
  renew lib env user req

def AuthCall.run (lib : Crates) : AuthCall → AppState → AppState
  | .login call, s => call.exec lib s
  | .renew authEnv env header req, s => ((renewRequest lib authEnv env header req).run s).2
  | .revoke registeredAt master entry, s => ((postRevocation lib registeredAt master entry).run s).2
  | .other elsewhere, s => elsewhere.change s

/-- The sessions a call opens with a certificate. -/
def AuthCall.certified (lib : Crates) : AuthCall → AppState → List (SessionRow × SubkeyCert)
  | .login call, s => call.certified lib s
  | _, _ => []

/-- A state of the hub, and the stored sessions that were opened with a
certificate. -/
structure Audited where
  state : AppState
  certified : List (SessionRow × SubkeyCert)

def AuthCall.exec (lib : Crates) (call : AuthCall) (a : Audited) : Audited where
  state := call.run lib a.state
  certified := (a.certified ++ call.certified lib a.state).filter
    (·.1 ∈ (call.run lib a.state).db.sessions.rows)

/-! ## Soundness -/

def Unexpired (cert : SubkeyCert) (now : Int) : Prop :=
  ∀ notAfter ∈ cert.notAfter, now ≤ notAfter.toNat

-- Decided by looking into the option: there are too many 64-bit times to try.
instance (cert : SubkeyCert) (now : Int) : Decidable (Unexpired cert now) :=
  decidable_of_iff (cert.notAfter.all fun notAfter => decide (now ≤ notAfter.toNat))
    (by simp [Unexpired, Option.all_eq_true])

/-- An entry of the certificate's master about the certificate's device is
stored. -/
def Db.certRevoked (db : Db) (cert : SubkeyCert) : Bool :=
  db.subkeyRevocations.has (cert.masterPubkey, cert.subkeyPubkey)

/-- The key that a request names has signed the challenge that was pending for
it. -/
def SignedChallenge (lib : Crates) (req : VerifyRequest) (s : AppState) : Prop :=
  ∃ pending signature, s.pendingChallenges req.publicKey = some pending ∧
    hexDecode req.signature = some signature ∧
    verifySignature lib.ed25519 req.publicKey pending.challengeBytes signature = .ok ()

/-- A call that opens a session with a certificate: the master signed it, it is
about the key that signed the challenge, it is unexpired and not revoked. -/
def AuthCall.SoundAdmission (lib : Crates) (call : AuthCall) (a : Audited) : Prop :=
  match call with
  | .login (.verify env req) =>
      ∀ opened ∈ (LoginCall.verify env req).certified lib a.state,
        opened.2.verify lib.ed25519 = .ok () ∧ opened.2.subkeyPubkey = req.publicKey ∧
        SignedChallenge lib req a.state ∧ Unexpired opened.2 env.now ∧
        a.state.db.certRevoked opened.2 = false
  | _ => True

/-- No session opened with a certificate that has been revoked is accepted. -/
def RevocationsBite (lib : Crates) (a : Audited) : Prop :=
  ∀ opened ∈ a.certified, a.state.db.certRevoked opened.2 = true →
    ∀ env path, ((authUser lib env (.bearing opened.1.token path)).run a.state).1.isOk = false

/-- The condition on one call. A login that has answered its challenge presents no good
certificate that is expired or revoked; and when an entry that its master signed is handed
in, the stored sessions it is about belong to the device's own key, or to a key that is
revoked anyway. -/
def AuthCall.Careful (lib : Crates) (call : AuthCall) (a : Audited) : Prop :=
  match call with
  | .login (.verify env req) =>
      challengeAnswer lib env req (a.state.pendingChallenges req.publicKey) = .ok () →
      checkCert lib.ed25519 req.publicKey req.subkeyCert = .ok () → ∀ cert ∈ req.subkeyCert,
        Unexpired cert env.now ∧ a.state.db.certRevoked cert = false
  | .revoke _ master entry => entry.masterPubkey = master →
      entry.verify lib.ed25519 = .ok () → ∀ opened ∈ a.certified,
        opened.2.masterPubkey = entry.masterPubkey → opened.2.subkeyPubkey = entry.subkeyPubkey →
        opened.1.publicKey = entry.subkeyPubkey ∨ a.state.db.isRevoked opened.1.publicKey = true
  | _ => True

instance (lib : Crates) (call : AuthCall) (a : Audited) : Decidable (call.Careful lib a) :=
  match call with
  | .login (.verify env req) => decidable_of_iff
      (challengeAnswer lib env req (a.state.pendingChallenges req.publicKey) = .ok () →
        checkCert lib.ed25519 req.publicKey req.subkeyCert = .ok () →
        (req.subkeyCert.all fun cert =>
          decide (Unexpired cert env.now ∧ a.state.db.certRevoked cert = false)) = true)
      (by simp [AuthCall.Careful, Option.all_eq_true])
  | .revoke _ _ _ =>
      inferInstanceAs (Decidable (_ → _ → ∀ opened ∈ _, _ → _ → _ ∨ _))
  | .login (.challenge ..) => inferInstanceAs (Decidable True)
  | .renew .. => inferInstanceAs (Decidable True)
  | .other _ => inferInstanceAs (Decidable True)

/-! ## One login -/

theorem signedChallenge_of_answer {env : LoginEnv} {req : VerifyRequest}
    (h : challengeAnswer lib env req (s.pendingChallenges req.publicKey) = .ok ()) :
    SignedChallenge lib req s := by
  obtain ⟨pending, signature, hpending, -, -, hsignature, hverify⟩ := challengeAnswer_ok h
  exact ⟨pending, signature, hpending, hsignature, hverify⟩

/-- A session that a login opens with a certificate. -/
theorem LoginEffect.opened {env : LoginEnv} {req : VerifyRequest}
    (h : LoginEffect lib env req s t) {row : SessionRow} (hrow : row ∈ t.db.sessions.rows)
    (hnew : row ∉ s.db.sessions.rows) :
    row.token = env.token ∧ checkCert lib.ed25519 req.publicKey req.subkeyCert = .ok () ∧
      challengeAnswer lib env req (s.pendingChallenges req.publicKey) = .ok () := by
  cases h with
  | refused _ hsessions =>
      rw [hsessions] at hrow
      exact absurd hrow hnew
  | enrolled canonical master hchallenge hcert _ _ hsessions =>
      rcases hsessions with hsame | ⟨-, hrows⟩
      · rw [hsame] at hrow
        exact absurd hrow hnew
      · rw [hrows, List.mem_append, List.mem_singleton] at hrow
        rw [hrow.resolve_left hnew]
        exact ⟨rfl, hcert, hchallenge⟩

theorem mem_certified_verify {env : LoginEnv} {req : VerifyRequest}
    {opened : SessionRow × SubkeyCert}
    (h : opened ∈ (LoginCall.verify env req).certified lib s) :
    req.subkeyCert = some opened.2 ∧ opened.1 ∈ ((verify lib env req).run s).2.db.sessions.rows ∧
      opened.1 ∉ s.db.sessions.rows := by
  unfold LoginCall.certified at h
  dsimp only at h
  cases hcert : req.subkeyCert with
  | none =>
      rw [hcert] at h
      cases h
  | some cert =>
      rw [hcert] at h
      simp only [List.mem_map, List.mem_filter, decide_eq_true_eq] at h
      obtain ⟨row, hrow, rfl⟩ := h
      exact ⟨rfl, hrow.1, hrow.2⟩

theorem checkCert_eq_ok_iff {authPubkey : String} {cert : SubkeyCert} :
    checkCert lib.ed25519 authPubkey (some cert) = .ok () ↔
      cert.verify lib.ed25519 = .ok () ∧ cert.subkeyPubkey = authPubkey := by
  unfold checkCert
  dsimp only
  cases cert.verify lib.ed25519 with
  | error e => simp
  | ok _ => simp

/-- A careful login opens certified sessions only as it should. -/
theorem AuthCall.Careful.soundAdmission {call : AuthCall} {a : Audited}
    (h : call.Careful lib a) : call.SoundAdmission lib a := by
  unfold AuthCall.SoundAdmission
  split
  · intro opened hopened
    obtain ⟨hcert, hrow, hnew⟩ := mem_certified_verify hopened
    obtain ⟨-, hchecked, hanswer⟩ := verify_effect.opened hrow hnew
    obtain ⟨hunexpired, hlive⟩ := h hanswer hchecked opened.2 hcert
    rw [hcert, checkCert_eq_ok_iff] at hchecked
    exact ⟨hchecked.1, hchecked.2, signedChallenge_of_answer hanswer, hunexpired, hlive⟩
  · trivial

/-! ## What a call leaves alone -/

/-- The extractor adds members at most. -/
structure AuthFrame (s t : AppState) : Prop where
  sessions : t.db.sessions = s.db.sessions
  revocations : t.db.subkeyRevocations = s.db.subkeyRevocations
  members : ∀ key, s.db.registry key ≠ none → t.db.registry key ≠ none

theorem AuthFrame.refl (s : AppState) : AuthFrame s s :=
  ⟨rfl, rfl, fun _ h => h⟩

theorem AuthFrame.trans (a b c : AppState) (hab : AuthFrame a b) (hbc : AuthFrame b c) :
    AuthFrame a c :=
  ⟨hbc.sessions.trans hab.sessions, hbc.revocations.trans hab.revocations,
    fun key h => hbc.members key (hab.members key h)⟩

theorem authFrame_upsertFarmUser (publicKey : String) (now : Int) (s : AppState) :
    AuthFrame s (s.withDb (upsertFarmUser publicKey now s.db)) := by
  refine ⟨rfl, rfl, fun key hkey => ?_⟩
  unfold Db.registry at hkey ⊢
  change ((s.db.users.upsert _ _ _).find? key).map _ ≠ none
  rw [Table.find?_upsert]
  split_ifs
  · simp
  · exact hkey

theorem changes_writeIgnoring {role : UserRoleRow} {f : UserRoleRow → Db → Except SqlError Db}
    (h : ∀ s db, f role s.db = .ok db → LateFrame s (s.withDb db)) :
    (writeIgnoring (f role)).Changes AuthFrame := by
  apply changes_write
  intro s
  cases hrole : f role s.db with
  | error e => exact AuthFrame.refl s
  | ok db =>
      have hframe := h s db hrole
      refine ⟨hframe.sessions, hframe.subkeyRevocations, fun key hkey => ?_⟩
      unfold Db.registry at hkey ⊢
      rwa [hframe.users]

theorem changes_assignFarmRoles (now : Int) (publicKey : String) :
    (assignFarmRoles now publicKey).Changes AuthFrame := by
  apply Prog.Changes.bind AuthFrame.trans (Prog.changes_query AuthFrame.refl _)
  intro _
  apply Prog.changes_when AuthFrame.refl
  apply Prog.Changes.bind AuthFrame.trans (Prog.changes_query AuthFrame.refl _)
  intro _
  apply Prog.Changes.bind AuthFrame.trans
  · apply Prog.changes_when AuthFrame.refl
    exact changes_writeIgnoring fun s db => lateFrame_insertUserRole
  intro _
  exact changes_writeIgnoring fun s db => lateFrame_insertUserRoleOrIgnore

theorem changes_farmAdmission (now : Int) (path publicKey : String) :
    (farmAdmission now path publicKey).Changes AuthFrame := by
  apply Prog.Changes.bind AuthFrame.trans
  · exact changes_write (authFrame_upsertFarmUser publicKey now)
  intro _
  apply Prog.Changes.bind AuthFrame.trans (changes_assignFarmRoles now publicKey)
  intro _
  apply Prog.Changes.bind AuthFrame.trans (Prog.changes_query AuthFrame.refl _)
  intro _
  apply Prog.Changes.bind AuthFrame.trans (Prog.changes_ensure AuthFrame.refl)
  intro _
  apply Prog.Changes.bind AuthFrame.trans (Prog.changes_query AuthFrame.refl _)
  exact fun _ => Prog.changes_ensure AuthFrame.refl

theorem changes_refetchFarmPubkey (env : AuthEnv) (token : String) (firstErr : ApiError) :
    (refetchFarmPubkey lib env token firstErr).Changes AuthFrame := by
  apply Prog.Changes.bind AuthFrame.trans (Prog.changes_query AuthFrame.refl _)
  intro _
  apply Prog.Changes.bind AuthFrame.trans (Prog.changes_ensure AuthFrame.refl)
  intro _
  apply Prog.Changes.bind AuthFrame.trans (Prog.changes_query AuthFrame.refl _)
  intro _
  apply Prog.Changes.bind AuthFrame.trans (Prog.changes_ensure AuthFrame.refl)
  intro _
  apply Prog.Changes.bind AuthFrame.trans
  · exact Prog.changes_exec fun s => ⟨rfl, rfl, fun _ h => h⟩
  intro _
  cases env.farmInfo with
  | none => exact Prog.changes_fail AuthFrame.refl _
  | some newPk =>
      apply Prog.Changes.bind AuthFrame.trans
      · exact Prog.changes_exec fun s => ⟨rfl, rfl, fun _ h => h⟩
      exact fun _ => Prog.changes_ofExcept AuthFrame.refl _

theorem changes_farmIdentity (env : AuthEnv) (token : String) :
    (farmIdentity lib env token).Changes AuthFrame := by
  apply Prog.Changes.bind AuthFrame.trans (Prog.changes_query AuthFrame.refl _)
  intro cached
  cases cached with
  | none => exact Prog.changes_fail AuthFrame.refl _
  | some farmPubkey =>
      dsimp only
      cases tryVerifyFarmToken lib env.checkNow farmPubkey token with
      | ok sub => exact Prog.changes_ret AuthFrame.refl sub
      | error firstErr => exact changes_refetchFarmPubkey env token firstErr

theorem changes_authUser (env : AuthEnv) (req : AuthRequest) :
    (authUser lib env req).Changes AuthFrame := by
  apply Prog.Changes.bind AuthFrame.trans (Prog.changes_ofExcept AuthFrame.refl _)
  intro token
  split_ifs
  · apply Prog.Changes.bind AuthFrame.trans (changes_farmIdentity env token)
    intro publicKey
    apply Prog.Changes.bind AuthFrame.trans (changes_farmAdmission env.now req.path publicKey)
    exact fun _ => Prog.changes_ret AuthFrame.refl publicKey
  · intro s
    rw [run_opaqueIdentity]
    exact AuthFrame.refl s

/-- What every call but `post_revocation` does: it leaves revocations alone and
keeps the foreign key of `sessions`. -/
structure SessionFrame (s t : AppState) : Prop where
  revocations : t.db.subkeyRevocations = s.db.subkeyRevocations
  references : SessionsReferToUsers s → SessionsReferToUsers t

theorem SessionFrame.refl (s : AppState) : SessionFrame s s :=
  ⟨rfl, fun h => h⟩

theorem SessionFrame.trans (a b c : AppState) (hab : SessionFrame a b) (hbc : SessionFrame b c) :
    SessionFrame a c :=
  ⟨hbc.revocations.trans hab.revocations, fun h => hbc.references (hab.references h)⟩

theorem AuthFrame.sessionFrame (h : AuthFrame s t) : SessionFrame s t := by
  refine ⟨h.revocations, fun hrefer row hrow => ?_⟩
  rw [h.sessions] at hrow
  exact h.members _ (hrefer row hrow)

theorem sessionFrame_insertSession {row : SessionRow} {db : Db}
    (h : insertSession row s.db = .ok db) : SessionFrame s (s.withDb db) := by
  unfold insertSession at h
  cases hinsert : s.db.sessions.insert? row with
  | none => simp [hinsert] at h
  | some sessions =>
      rw [hinsert] at h
      dsimp only at h
      split_ifs at h with hmember
      cases h
      refine ⟨rfl, fun hrefer other hother => ?_⟩
      change other ∈ sessions.rows at hother
      rw [(Table.insert?_eq_some_iff.mp hinsert).2, List.mem_append, List.mem_singleton] at hother
      rcases hother with hold | rfl
      · exact hrefer other hold
      · obtain ⟨user, huser, hkey⟩ := Table.has_iff.mp hmember
        change (s.db.users.find? other.publicKey).map _ ≠ none
        rw [Table.find?_eq_some_iff.mpr ⟨huser, hkey⟩]
        simp

theorem changes_renewRequest (authEnv : AuthEnv) (env : LoginEnv) (header : AuthRequest)
    (req : VerifyRequest) :
    (renewRequest lib authEnv env header req).Changes SessionFrame := by
  apply Prog.Changes.bind SessionFrame.trans
  · exact fun s => (changes_authUser authEnv header s).sessionFrame
  intro user
  apply Prog.Changes.bind SessionFrame.trans
  · intro s
    rw [run_takeChallenge]
    exact ⟨rfl, fun h => h⟩
  intro pending
  apply Prog.Changes.bind SessionFrame.trans (Prog.changes_ofExcept SessionFrame.refl _)
  intro answer
  apply Prog.Changes.bind SessionFrame.trans (Prog.changes_ensure SessionFrame.refl)
  intro _
  apply Prog.Changes.bind SessionFrame.trans (Prog.changes_ofExcept SessionFrame.refl _)
  intro _
  apply Prog.Changes.bind SessionFrame.trans
  · exact changes_execute SessionFrame.refl fun s db => sessionFrame_insertSession
  exact fun _ => Prog.changes_ret SessionFrame.refl _

theorem LoginEffect.references {env : LoginEnv} {req : VerifyRequest}
    (h : LoginEffect lib env req s t) (hs : SessionsReferToUsers s) : SessionsReferToUsers t := by
  intro row hrow
  cases h with
  | refused hregistry hsessions =>
      rw [hsessions] at hrow
      rw [hregistry]
      exact hs row hrow
  | enrolled canonical master _ _ _ hregistry hsessions =>
      rw [hregistry]
      split_ifs with hkey
      · exact Option.some_ne_none _
      · rcases hsessions with hsame | ⟨-, hrows⟩
        · rw [hsame] at hrow
          exact hs row hrow
        · rw [hrows, List.mem_append, List.mem_singleton] at hrow
          rcases hrow with hold | rfl
          · exact hs row hold
          · exact absurd rfl hkey

theorem AuthCall.sessionFrame (call : AuthCall)
    (h : ∀ registeredAt master entry, call ≠ .revoke registeredAt master entry) :
    SessionFrame s (call.run lib s) := by
  cases call with
  | login call =>
      cases call with
      | challenge _ _ _ => exact ⟨rfl, fun h => h⟩
      | verify env req => exact ⟨verify_frame.subkeyRevocations, verify_effect.references⟩
  | renew authEnv env header req => exact changes_renewRequest authEnv env header req s
  | revoke registeredAt master entry => exact absurd rfl (h registeredAt master entry)
  | other elsewhere => exact ⟨elsewhere.revocations s, elsewhere.references s⟩

/-! ## The invariant -/

/-- Remembered sessions are stored under tokens without a dot, and those whose
certificate is revoked belong to a revoked key. -/
structure AuditInv (a : Audited) : Prop where
  references : SessionsReferToUsers a.state
  stored : ∀ opened ∈ a.certified, opened.1 ∈ a.state.db.sessions.rows
  token : ∀ opened ∈ a.certified, isFarmToken opened.1.token = false
  revoked : ∀ opened ∈ a.certified, a.state.db.certRevoked opened.2 = true →
    a.state.db.isRevoked opened.1.publicKey = true

theorem dot_notMem_hexDigit : ∀ n : Fin 16, 46 ∉ String.utf8EncodeChar (hexDigit n) := by
  decide

theorem isFarmToken_hexEncode (bytes : List UInt8) : isFarmToken (hexEncode bytes) = false := by
  unfold isFarmToken hexEncode
  rw [asBytes_ofList, List.flatMap_assoc, List.contains_eq_mem, decide_eq_false_iff_not,
    List.mem_flatMap]
  rintro ⟨byte, -, hdot⟩
  have hbyte := byte.toNat_lt
  simp only [hexDigits, List.flatMap_cons, List.flatMap_nil, List.append_nil,
    List.mem_append] at hdot
  rcases hdot with hdot | hdot
  · exact dot_notMem_hexDigit ⟨byte.toNat / 16, by omega⟩ hdot
  · exact dot_notMem_hexDigit ⟨byte.toNat % 16, by omega⟩ hdot

theorem mem_exec_certified {call : AuthCall} {a : Audited} {opened : SessionRow × SubkeyCert} :
    opened ∈ (call.exec lib a).certified ↔
      (opened ∈ a.certified ∨ opened ∈ call.certified lib a.state) ∧
        opened.1 ∈ (call.run lib a.state).db.sessions.rows := by
  simp only [AuthCall.exec, List.mem_filter, List.mem_append, decide_eq_true_eq]

/-- What a call remembers: only logins open certified sessions. -/
theorem AuthCall.mem_certified {call : AuthCall} {opened : SessionRow × SubkeyCert}
    (h : opened ∈ call.certified lib s) :
    ∃ env req, call = .login (.verify env req) ∧ req.subkeyCert = some opened.2 ∧
      opened.1.token = env.token ∧
      checkCert lib.ed25519 req.publicKey req.subkeyCert = .ok () ∧
      challengeAnswer lib env req (s.pendingChallenges req.publicKey) = .ok () := by
  cases call with
  | login call =>
      cases call with
      | challenge _ _ _ => cases h
      | verify env req =>
          obtain ⟨hcert, hrow, hnew⟩ := mem_certified_verify h
          exact ⟨env, req, rfl, hcert, verify_effect.opened hrow hnew⟩
  | renew _ _ _ _ => cases h
  | revoke _ _ _ => cases h
  | other _ => cases h

/-- Storing a revocation bites the sessions it is about, if they are filed under
the device. -/
theorem certRevoked_revoke {row : SubkeyRevocationRow} {cert : SubkeyCert}
    (h : (s.revoke row).db.certRevoked cert = true) :
    s.db.certRevoked cert = true ∨
      cert.masterPubkey = row.masterPubkey ∧ cert.subkeyPubkey = row.subkeyPubkey := by
  unfold Db.certRevoked at h ⊢
  obtain ⟨stored, hstored, hkey⟩ := Table.has_iff.mp h
  change stored ∈ (s.db.subkeyRevocations.insertOrIgnore row).rows at hstored
  rw [Table.mem_insertOrIgnore] at hstored
  rcases hstored with hold | ⟨-, rfl⟩
  · exact .inl (Table.has_iff.mpr ⟨stored, hold, hkey⟩)
  · exact .inr ⟨(Prod.mk.inj hkey).1.symm, (Prod.mk.inj hkey).2.symm⟩

theorem certRevoked_congr (h : t.db.subkeyRevocations = s.db.subkeyRevocations)
    (cert : SubkeyCert) : t.db.certRevoked cert = s.db.certRevoked cert := by
  rw [Db.certRevoked, Db.certRevoked, h]

/-- Handing in an entry stores it, if its master signed it, or does nothing. -/
theorem run_revoke_cases (registeredAt : Int) (master : String) (entry : RevocationEntry)
    (s : AppState) :
    (AuthCall.revoke registeredAt master entry).run lib s = s ∨
      (entry.masterPubkey = master ∧ entry.verify lib.ed25519 = .ok ()) ∧
        (AuthCall.revoke registeredAt master entry).run lib s =
          s.revoke (revocationRow registeredAt entry) := by
  unfold AuthCall.run
  dsimp only
  rcases run_postRevocation_cases lib registeredAt master entry s with ⟨e, hrun⟩ | ⟨hsigned, hrun⟩
  · left
    rw [hrun]
  · right
    refine ⟨hsigned, ?_⟩
    rw [hrun, AppState.revoke]

theorem AuditInv.exec_revoke {a : Audited} (h : AuditInv a) {registeredAt : Int} {master : String}
    {entry : RevocationEntry}
    (hcareful : (AuthCall.revoke registeredAt master entry).Careful lib a) :
    AuditInv ((AuthCall.revoke registeredAt master entry).exec lib a) := by
  have hold : ∀ opened ∈ ((AuthCall.revoke registeredAt master entry).exec lib a).certified,
      opened ∈ a.certified := by
    intro opened hopened
    exact (mem_exec_certified.mp hopened).1.resolve_right List.not_mem_nil
  refine ⟨?_, fun opened hopened => (mem_exec_certified.mp hopened).2,
    fun opened hopened => h.token opened (hold opened hopened), ?_⟩
  · change SessionsReferToUsers ((AuthCall.revoke registeredAt master entry).run lib a.state)
    rcases run_revoke_cases registeredAt master entry a.state with hrun | ⟨-, hrun⟩
    · rw [hrun]
      exact h.references
    · rw [hrun]
      exact h.references
  · intro opened hopened
    change ((AuthCall.revoke registeredAt master entry).run lib a.state).db.certRevoked _ = true →
      ((AuthCall.revoke registeredAt master entry).run lib a.state).db.isRevoked _ = true
    rcases run_revoke_cases registeredAt master entry a.state with hrun | ⟨⟨hown, hsigned⟩, hrun⟩
    · rw [hrun]
      exact h.revoked opened (hold opened hopened)
    · rw [hrun]
      intro hrevoked
      change (insertRevocation _ a.state.db).isRevoked _ = true
      rw [isRevoked_insertRevocation, Bool.or_eq_true, decide_eq_true_eq]
      rcases certRevoked_revoke hrevoked with hbefore | ⟨hmaster, hsubkey⟩
      · exact .inl (h.revoked opened (hold opened hopened) hbefore)
      · have hfiled := hcareful hown hsigned opened (hold opened hopened) hmaster hsubkey
        exact hfiled.symm.imp_right Eq.symm

theorem AuditInv.exec {a : Audited} (h : AuditInv a) {call : AuthCall}
    (hcareful : call.Careful lib a) : AuditInv (call.exec lib a) := by
  by_cases hrevoke : ∃ registeredAt master entry, call = .revoke registeredAt master entry
  · obtain ⟨registeredAt, master, entry, rfl⟩ := hrevoke
    exact h.exec_revoke hcareful
  · push Not at hrevoke
    have hframe : SessionFrame a.state (call.run lib a.state) := call.sessionFrame hrevoke
    refine ⟨hframe.references h.references, ?_, ?_, ?_⟩
    · intro opened hopened
      exact (mem_exec_certified.mp hopened).2
    · intro opened hopened
      rcases (mem_exec_certified.mp hopened).1 with hold | hnew
      · exact h.token opened hold
      · obtain ⟨env, req, -, -, htoken, -⟩ := AuthCall.mem_certified hnew
        rw [htoken]
        exact isFarmToken_hexEncode env.tokenBytes
    · intro opened hopened hrevoked
      change (call.run lib a.state).db.certRevoked opened.2 = true at hrevoked
      change (call.run lib a.state).db.isRevoked opened.1.publicKey = true
      rw [certRevoked_congr hframe.revocations] at hrevoked
      rw [isRevoked_congr hframe.revocations]
      rcases (mem_exec_certified.mp hopened).1 with hold | hnew
      · exact h.revoked opened hold hrevoked
      · obtain ⟨env, req, rfl, hcert, -, hchecked, hanswer⟩ := AuthCall.mem_certified hnew
        rw [(hcareful hanswer hchecked opened.2 hcert).2] at hrevoked
        cases hrevoked

/-- Under the invariant a revoked certificate leaves no accepted session. -/
theorem AuditInv.revocationsBite {a : Audited} (h : AuditInv a) : RevocationsBite lib a := by
  intro opened hopened hrevoked env path
  have hstored := h.stored opened hopened
  obtain ⟨user, huser⟩ : ∃ user, a.state.db.users.find? opened.1.publicKey = some user := by
    have hmember := h.references opened.1 hstored
    unfold Db.registry at hmember
    rw [ne_eq, Option.map_eq_none_iff] at hmember
    exact Option.ne_none_iff_exists'.mp hmember
  obtain ⟨hmem, hkey⟩ := Table.find?_eq_some_iff.mp huser
  have howner := sessionUser_of_mem hstored hmem hkey.symm
  have hbitten := h.revoked opened hopened hrevoked
  rw [← hkey] at hbitten
  rw [run_authUser_session (h.token opened hopened), run_opaqueIdentity]
  simp only [Db.opaqueAnswer, howner, Option.some_or, hbitten, if_true]
  rfl

/-- **Certificates and revocations.** Along every run from a hub without
sessions, in which no login presents an expired or revoked certificate and every
entry handed in finds the sessions it is about under the device's own key or a
revoked one, certified sessions are opened only as they should, and none is
accepted once its certificate is revoked. -/
theorem certifiedSessions_sound (lib : Crates) (calls : List AuthCall) (s : AppState)
    (hsessions : s.db.sessions = ∅)
    (hcareful : Along (AuthCall.exec lib) (AuthCall.Careful lib) calls ⟨s, []⟩) :
    Along (AuthCall.exec lib) (AuthCall.SoundAdmission lib) calls ⟨s, []⟩ ∧
      RevocationsBite lib (runAll (AuthCall.exec lib) calls ⟨s, []⟩) := by
  constructor
  · exact hcareful.imp fun call a => AuthCall.Careful.soundAdmission
  · have hstart : AuditInv ⟨s, []⟩ := by
      refine ⟨fun row hrow => ?_, nofun, nofun, nofun⟩
      rw [hsessions] at hrow
      cases hrow
    have hinv : AuditInv (runAll (AuthCall.exec lib) calls ⟨s, []⟩) :=
      hcareful.invariant AuditInv (fun call a hcall hinv => hinv.exec hcall) hstart
    exact hinv.revocationsBite

/-- The owner revokes the laptop, and the phone. -/
def laptopRevocation : RevocationEntry :=
  ⟨ownerKey, laptopKey, 50,
    "c000babe52f21e13fb754bd955ea7a24d3b9519581376d00d3c9345337ca02a3" ++
      "1a3989eac7ab3b57362116ec998350b36a7fea44a1fe6976f07e11cdd23f7902"⟩

def phoneRevocation : RevocationEntry :=
  ⟨ownerKey, phoneKey, 50,
    "a759787ba8b8546011ca256348a5f0dc457eb924a3026f0c699f958966e2ea6d" ++
      "5651a931c2883db4825c2588017067f7ed58d6b7e397e8b8bd9b1bebd0d8ea0c"⟩

def revokingLib : Crates := .ofRecorded [laptopAnswer, phoneAnswer,
  ⟨.replicate 32 2, ownerKey, laptopCert.toSigningBytes, laptopCert.signature⟩,
  ⟨.replicate 32 2, ownerKey, phoneCert.toSigningBytes, phoneCert.signature⟩,
  ⟨.replicate 32 2, ownerKey, laptopRevocation.toSigningBytes, laptopRevocation.signature⟩,
  ⟨.replicate 32 2, ownerKey, phoneRevocation.toSigningBytes, phoneRevocation.signature⟩]

/-- A member pairs the laptop they joined with, and then revokes it. -/
def lostLaptop : List AuthCall :=
  (loginWith laptopAnswer none 10 1 ++ loginWith laptopAnswer (some laptopCert) 20 2).map .login ++
    [.revoke 60 ownerKey laptopRevocation]

theorem certifiedSessions_sound_lostLaptop :
    Along (AuthCall.exec revokingLib) (AuthCall.SoundAdmission revokingLib) lostLaptop
        ⟨{ db := .migrated }, []⟩ ∧
      RevocationsBite revokingLib (runAll (AuthCall.exec revokingLib) lostLaptop
        ⟨{ db := .migrated }, []⟩) :=
  certifiedSessions_sound revokingLib lostLaptop { db := .migrated } rfl (by decide +kernel)

/-- The phone logs in with a certificate that was revoked before. -/
def revokedPhone : List AuthCall :=
  .revoke 60 ownerKey phoneRevocation ::
    (loginWith phoneAnswer (some phoneCert) 70 3).map .login

theorem revokedPhone_accepted :
    ¬ Along (AuthCall.exec revokingLib) (AuthCall.SoundAdmission revokingLib) revokedPhone
        ⟨{ db := .migrated }, []⟩ ∧
      ¬ RevocationsBite revokingLib (runAll (AuthCall.exec revokingLib) revokedPhone
        ⟨{ db := .migrated }, []⟩) := by
  obtain ⟨⟨hopened, hrevoked⟩, hcertified, hbitten, haccepted⟩ :
      ((⟨hexEncode (.replicate 32 3), ownerKey, 70⟩, phoneCert) ∈
          (LoginCall.verify (.fixed 70 3) (.ofRecorded phoneAnswer (some phoneCert))).certified
            revokingLib (runAll (AuthCall.exec revokingLib) (revokedPhone.take 2)
              ⟨{ db := .migrated }, []⟩).state ∧
        (runAll (AuthCall.exec revokingLib) (revokedPhone.take 2)
          ⟨{ db := .migrated }, []⟩).state.db.certRevoked phoneCert = true) ∧
      (⟨hexEncode (.replicate 32 3), ownerKey, 70⟩, phoneCert) ∈
        (runAll (AuthCall.exec revokingLib) revokedPhone ⟨{ db := .migrated }, []⟩).certified ∧
      (runAll (AuthCall.exec revokingLib) revokedPhone
        ⟨{ db := .migrated }, []⟩).state.db.certRevoked phoneCert = true ∧
      ((opaqueIdentity "/me" (hexEncode (.replicate 32 3))).run
        (runAll (AuthCall.exec revokingLib) revokedPhone
          ⟨{ db := .migrated }, []⟩).state).1.isOk = true := by
    decide +kernel
  constructor
  · intro h
    have hlive := (h.2.2.1 _ hopened).2.2.2.2
    exact absurd (hrevoked.symm.trans hlive) (by decide)
  · intro h
    have hrefused := h _ hcertified hbitten ⟨80, 80, 80, 80, 80, none⟩ "/me"
    rw [run_authUser_session (isFarmToken_hexEncode _)] at hrefused
    rw [haccepted] at hrefused
    cases hrefused

end Voxply.Hub
