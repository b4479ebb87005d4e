/-
# One canonical identity for the devices of a master

Sequences of completed logins, and who the member rows say everybody is.  A
master recorded in a member row stays there, and no two rows record the same
master.  A login with a certificate ends up in the row that records the master,
unless the master's own key already belongs to a row of another master: the
brand-new device is then filed under that row.
-/

import Voxply.Hub.VerifyStages
import Voxply.Math.Trace

namespace Voxply.Hub

open Voxply.Math Voxply.Identity

variable {lib : Crates} {env : LoginEnv} {req : VerifyRequest} {s t : AppState} {db : Db}

/-! ## Sequences of logins -/

/-- A call of one of the two login endpoints, with what the surroundings
supplied. -/
inductive LoginCall where
  | challenge (challengeBytes : List UInt8) (instant : ℕ) (publicKey : String)
  | verify (env : LoginEnv) (req : VerifyRequest)

def LoginCall.exec (lib : Crates) : LoginCall → AppState → AppState
  | .challenge challengeBytes instant publicKey, s =>
      ((Hub.challenge challengeBytes instant publicKey).run s).2
  | .verify env req, s => ((Hub.verify lib env req).run s).2

/-- The sessions a call creates with a certificate, and the certificate. -/
def LoginCall.certified (lib : Crates) (call : LoginCall) (s : AppState) :
    List (SessionRow × SubkeyCert) :=
  match call with
  | .challenge .. => []
  | .verify env req =>
      match req.subkeyCert with
      | none => []
      | some cert =>
          (((Hub.verify lib env req).run s).2.db.sessions.rows.filter
            (· ∉ s.db.sessions.rows)).map (·, cert)

/-- What multi-device login is meant to guarantee after a sequence of calls. -/
structure CanonicalIdentity (lib : Crates) (calls : List LoginCall) (s : AppState) : Prop where
  /-- A master, once recorded in a row, stays. -/
  master_fixed : ∀ before after, calls = before ++ after → ∀ key master,
    (runAll (LoginCall.exec lib) before s).db.registry key = some (some master) →
    (runAll (LoginCall.exec lib) calls s).db.registry key = some (some master)
  /-- No two rows have the same master. -/
  master_unique : ∀ first second master,
    (runAll (LoginCall.exec lib) calls s).db.registry first = some (some master) →
    (runAll (LoginCall.exec lib) calls s).db.registry second = some (some master) →
    first = second
  /-- A session created with a certificate belongs to the row of the master. -/
  session_master : ∀ row cert,
    (row, cert) ∈ logAll (LoginCall.exec lib) (LoginCall.certified lib) calls s →
    (runAll (LoginCall.exec lib) calls s).db.registry row.publicKey =
      some (some cert.masterPubkey)
  /-- All devices of a master share one canonical key. -/
  canonical_unique : ∀ first firstCert second secondCert,
    (first, firstCert) ∈ logAll (LoginCall.exec lib) (LoginCall.certified lib) calls s →
    (second, secondCert) ∈ logAll (LoginCall.exec lib) (LoginCall.certified lib) calls s →
    firstCert.masterPubkey = secondCert.masterPubkey → first.publicKey = second.publicKey

/-- The condition under which a certified login is filed under its master: if it has answered
its challenge with a good certificate, no row records the master and the device is not a
single-key member, then the master's own key has no row that records somebody else. -/
def LoginCall.MasterKeyFree (lib : Crates) (call : LoginCall) (s : AppState) : Prop :=
  match call with
  | .challenge .. => True
  | .verify env req =>
      challengeAnswer lib env req (s.pendingChallenges req.publicKey) = .ok () →
      checkCert lib.ed25519 req.publicKey req.subkeyCert = .ok () → ∀ cert ∈ req.subkeyCert,
        s.db.userOfMaster cert.masterPubkey = none → s.db.legacyUser req.publicKey = none →
        (s.db.registry cert.masterPubkey).getD none = none

instance (lib : Crates) (call : LoginCall) (s : AppState) :
    Decidable (call.MasterKeyFree lib s) :=
  match call with
  | .challenge .. => inferInstanceAs (Decidable True)
  | .verify env req => inferInstanceAs (Decidable
      (challengeAnswer lib env req (s.pendingChallenges req.publicKey) = .ok () →
        checkCert lib.ed25519 req.publicKey req.subkeyCert = .ok () → ∀ cert ∈ req.subkeyCert,
          s.db.userOfMaster cert.masterPubkey = none → s.db.legacyUser req.publicKey = none →
          (s.db.registry cert.masterPubkey).getD none = none))

/-! ## Reading member rows -/

theorem registry_of_userOfMaster {master canonical : String}
    (h : db.userOfMaster master = some canonical) :
    db.registry canonical = some (some master) := by
  unfold Db.userOfMaster at h
  rw [Option.map_eq_some_iff] at h
  obtain ⟨row, hfind, rfl⟩ := h
  have hmaster : row.masterPubkey = some master := by simpa using List.find?_some hfind
  have hrow : db.users.find? row.publicKey = some row :=
    Table.find?_eq_some_iff.mpr ⟨List.mem_of_find?_eq_some hfind, rfl⟩
  rw [Db.registry, hrow, Option.map_some, hmaster]

theorem registry_ne_of_userOfMaster {master : String} (h : db.userOfMaster master = none)
    (key : String) : db.registry key ≠ some (some master) := by
  unfold Db.userOfMaster at h
  rw [Option.map_eq_none_iff, List.find?_eq_none] at h
  intro hregistry
  unfold Db.registry at hregistry
  rw [Option.map_eq_some_iff] at hregistry
  obtain ⟨row, hfind, hmaster⟩ := hregistry
  exact h row (Table.find?_eq_some_iff.mp hfind).1 (by simpa using hmaster)

theorem registry_of_legacyUser {publicKey canonical : String}
    (h : db.legacyUser publicKey = some canonical) :
    canonical = publicKey ∧ db.registry publicKey = some none := by
  unfold Db.legacyUser at h
  rw [Option.map_eq_some_iff] at h
  obtain ⟨row, hfilter, rfl⟩ := h
  rw [Option.filter_eq_some_iff] at hfilter
  have hmaster : row.masterPubkey = none := by simpa using hfilter.2
  refine ⟨(Table.find?_eq_some_iff.mp hfilter.1).2, ?_⟩
  rw [Db.registry, hfilter.1, Option.map_some, hmaster]

/-- Where a certified login goes: to the row of the master; or, when there is
none, to the row of a single-key member or to the master's own key. -/
theorem canonical_cases {authPubkey canonical : String} {cert : SubkeyCert} {master : Option String}
    (h : db.canonical authPubkey (some cert) = (canonical, master)) :
    master = some cert.masterPubkey ∧
    (db.registry canonical = some (some cert.masterPubkey) ∨
      db.userOfMaster cert.masterPubkey = none ∧
        (db.registry canonical = some none ∨
          canonical = cert.masterPubkey ∧ db.legacyUser authPubkey = none)) := by
  unfold Db.canonical at h
  dsimp only at h
  cases hmaster : db.userOfMaster cert.masterPubkey with
  | some known =>
      rw [hmaster] at h
      cases h
      exact ⟨rfl, .inl (registry_of_userOfMaster hmaster)⟩
  | none =>
      rw [hmaster] at h
      cases hlegacy : db.legacyUser authPubkey with
      | some legacy =>
          rw [hlegacy] at h
          cases h
          obtain ⟨hkey, hregistry⟩ := registry_of_legacyUser hlegacy
          rw [Option.getD_some, hkey]
          exact ⟨rfl, .inr ⟨rfl, .inl hregistry⟩⟩
      | none =>
          rw [hlegacy] at h
          cases h
          exact ⟨rfl, .inr ⟨rfl, .inr ⟨rfl, rfl⟩⟩⟩

/-! ## One login -/

/-- No two rows have the same master. -/
def MastersUnique (s : AppState) : Prop :=
  ∀ first second master, s.db.registry first = some (some master) →
    s.db.registry second = some (some master) → first = second

theorem LoginEffect.master_fixed (h : LoginEffect lib env req s t) {key master : String}
    (hkey : s.db.registry key = some (some master)) : t.db.registry key = some (some master) := by
  cases h with
  | refused hregistry _ => rw [hregistry, hkey]
  | enrolled canonical recorded _ _ _ hregistry _ =>
      rw [hregistry, hkey]
      split_ifs <;> rfl

/-- A master that a login adds to a row was recorded in no row before. -/
theorem LoginEffect.master_origin (h : LoginEffect lib env req s t) :
    ∃ canonical, ∀ key master, t.db.registry key = some (some master) →
      s.db.registry key = some (some master) ∨
        s.db.userOfMaster master = none ∧ key = canonical := by
  cases h with
  | refused hregistry _ =>
      rw [hregistry]
      exact ⟨"", fun key master hkey => .inl hkey⟩
  | enrolled canonical recorded _ _ hcanonical hregistry _ =>
      refine ⟨canonical, fun key master hkey => ?_⟩
      rw [hregistry] at hkey
      split_ifs at hkey with hcanon
      · subst hcanon
        cases hcert : req.subkeyCert with
        | none =>
            -- Without a certificate no master is recorded.
            rw [hcert] at hcanonical
            cases hcanonical
            left
            cases hold : s.db.registry req.publicKey <;> simp_all
        | some cert =>
            rw [hcert] at hcanonical
            obtain ⟨rfl, hcases⟩ := canonical_cases hcanonical
            rcases hcases with hknown | ⟨hnew, -⟩
            · left
              rw [hknown] at hkey ⊢
              exact hkey
            · rcases hold : s.db.registry key with - | - | old
              · rw [hold] at hkey
                cases hkey
                exact .inr ⟨hnew, rfl⟩
              · rw [hold] at hkey
                cases hkey
                exact .inr ⟨hnew, rfl⟩
              · rw [hold] at hkey
                exact .inl hkey
      · exact .inl hkey

theorem LoginEffect.mastersUnique (h : LoginEffect lib env req s t) (hs : MastersUnique s) :
    MastersUnique t := by
  obtain ⟨canonical, horigin⟩ := h.master_origin
  intro first second master hfirst hsecond
  rcases horigin first master hfirst with hold | ⟨hnew, rfl⟩
  · rcases horigin second master hsecond with hold' | ⟨hnew, -⟩
    · exact hs first second master hold hold'
    · exact absurd hold (registry_ne_of_userOfMaster hnew first)
  · rcases horigin second master hsecond with hold' | ⟨-, rfl⟩
    · exact absurd hold' (registry_ne_of_userOfMaster hnew second)
    · rfl

/-- The session of a certified login belongs to the row of the master, if the
master's key is free for it. -/
theorem LoginEffect.session_master (h : LoginEffect lib env req s t) {cert : SubkeyCert}
    (hcert : req.subkeyCert = some cert)
    (hfree : (LoginCall.verify env req).MasterKeyFree lib s) {row : SessionRow}
    (hrow : row ∈ t.db.sessions.rows) (hnew : row ∉ s.db.sessions.rows) :
    t.db.registry row.publicKey = some (some cert.masterPubkey) := by
  cases h with
  | refused _ hsessions =>
      rw [hsessions] at hrow
      exact absurd hrow hnew
  | enrolled canonical recorded hanswer hchecked hcanonical hregistry hsessions =>
      have hkey : row.publicKey = canonical := by
        rcases hsessions with hsame | ⟨-, hrows⟩
        · rw [hsame] at hrow
          exact absurd hrow hnew
        · rw [hrows, List.mem_append, List.mem_singleton] at hrow
          rw [hrow.resolve_left hnew]
      rw [hcert] at hcanonical
      obtain ⟨rfl, hcases⟩ := canonical_cases hcanonical
      rw [hregistry, if_pos hkey, hkey]
      rcases hcases with hknown | ⟨hnone, hlegacy | ⟨rfl, hlegacy⟩⟩
      · rw [hknown]
        rfl
      · rw [hlegacy]
        rfl
      · rw [hfree hanswer hchecked cert hcert hnone hlegacy]
        rfl

/-! ## Whole sequences -/

theorem LoginCall.master_fixed (call : LoginCall) {key master : String}
    (hkey : s.db.registry key = some (some master)) :
    (call.exec lib s).db.registry key = some (some master) := by
  cases call with
  | challenge _ _ _ => exact hkey
  | verify env req => exact verify_effect.master_fixed hkey

theorem LoginCall.mastersUnique (call : LoginCall) (hs : MastersUnique s) :
    MastersUnique (call.exec lib s) := by
  cases call with
  | challenge _ _ _ => exact hs
  | verify env req => exact verify_effect.mastersUnique hs

theorem LoginCall.session_master (call : LoginCall) (hfree : call.MasterKeyFree lib s)
    {row : SessionRow} {cert : SubkeyCert} (h : (row, cert) ∈ call.certified lib s) :
    (call.exec lib s).db.registry row.publicKey = some (some cert.masterPubkey) := by
  cases call with
  | challenge _ _ _ => cases h
  | verify env req =>
      unfold LoginCall.certified at h
      dsimp only at h
      cases hcert : req.subkeyCert with
      | none =>
          rw [hcert] at h
          cases h
      | some cert =>
          rw [hcert] at h
          simp only [List.mem_map, List.mem_filter, decide_eq_true_eq, Prod.mk.injEq] at h
          obtain ⟨_, ⟨hrow, hnew⟩, rfl, rfl⟩ := h
          exact verify_effect.session_master hcert hfree hrow hnew

theorem mastersUnique_of_users_empty (h : s.db.users = ∅) : MastersUnique s := by
  intro first second master hfirst
  rw [Db.registry, h] at hfirst
  cases hfirst

/-- Multi-device login keeps its promise along every sequence of logins, into a
hub without members, in which no certified login finds its master's key taken. -/
theorem logins_canonicalIdentity (lib : Crates) (calls : List LoginCall) (s : AppState)
    (hempty : s.db.users = ∅)
    (hfree : Along (LoginCall.exec lib) (LoginCall.MasterKeyFree lib) calls s) :
    CanonicalIdentity lib calls s := by
  have hunique : MastersUnique (runAll (LoginCall.exec lib) calls s) :=
    hfree.invariant MastersUnique (fun call s _ => call.mastersUnique)
      (mastersUnique_of_users_empty hempty)
  have hsession : ∀ row cert,
      (row, cert) ∈ logAll (LoginCall.exec lib) (LoginCall.certified lib) calls s →
      (runAll (LoginCall.exec lib) calls s).db.registry row.publicKey =
        some (some cert.masterPubkey) := by
    intro row cert hlogged
    exact hfree.logged (fun _ => True)
      (fun entry s => s.db.registry entry.1.publicKey = some (some entry.2.masterPubkey))
      (fun _ _ _ _ => trivial) (fun call s entry _ _ => call.master_fixed)
      (fun call s hok _ entry hentry => call.session_master hok hentry) trivial hlogged
  refine ⟨?_, hunique, hsession, ?_⟩
  · intro before after hcalls key master hkey
    rw [hcalls, runAll_append]
    rw [hcalls] at hfree
    exact hfree.append.2.invariant (fun s => s.db.registry key = some (some master))
      (fun call s _ => call.master_fixed) hkey
  · intro first firstCert second secondCert hfirst hsecond hmaster
    have hsecond := hsession second secondCert hsecond
    rw [← hmaster] at hsecond
    exact hunique _ _ _ (hsession first firstCert hfirst) hsecond

/-- A laptop, a phone and the key of their owner. -/
def laptopKey : String := "8a88e3dd7409f195fd52db2d3cba5d72ca6709bf1d94121bf3748801b40f6f5c"
def phoneKey : String := "ed4928c628d1c2c6eae90338905995612959273a5c63f93636c14614ac8737d1"
def ownerKey : String := "8139770ea87d175f56a35466c34c7ecccb8d8a91b4ee37a25df60f5b8fc9b394"

/-- The answers of the two devices to their challenges. -/
def laptopAnswer : RecordedSignature :=
  ⟨.replicate 32 1, laptopKey, .replicate 32 11,
    "9cb11a8cc062d6239306b6c3f65e1561179ebe0a7007e9346f6af186df7d57bf" ++
      "c9ea82b5f8f1248309389c6f3ff6755980b13312ee6cf620ef7d688b03566803"⟩

def phoneAnswer : RecordedSignature :=
  ⟨.replicate 32 3, phoneKey, .replicate 32 13,
    "ee44b86923be8b49c4aeae0cfceeee6cfd1de67e208059269e3702c68a23ce84" ++
      "a635bee9561a931b4b55a2e97d1727b6a8be7c21250d227847f6e044b4c06c0d"⟩

def laptopCert : SubkeyCert :=
  ⟨ownerKey, laptopKey, "laptop", 1, none, [],
    "60eb8de7c8d96b076e6cbe13f9259b465b8111d4bd405a226fb988cd8fc01e50" ++
      "4bad40f27e6b6bba0f489ca2961d58d285a88b19d1c96a3b11732b2e0fa9d50d"⟩

/-- The phone, certified by the owner and certified by the laptop. -/
def phoneCert : SubkeyCert :=
  ⟨ownerKey, phoneKey, "phone", 2, none, [],
    "d470143d1274637df80851be156079fda042d356d29f54fb98f74091ea98b279" ++
      "4fa95b97a2f613f802e023ed3e9ecf9b99e6c00949bdc0608dce10ce18415d0e"⟩

def laptopPhoneCert : SubkeyCert :=
  ⟨laptopKey, phoneKey, "phone", 2, none, [],
    "42090ba74f8ffe9abfbdd7c78b0daacf8a2670ad4186d94fd2e78cd9d02c8125" ++
      "61072d0d387fdad287246166658e289480afd7412fc7d2ee59af5bd896ac9f05"⟩

def deviceLib : Crates := .ofRecorded [laptopAnswer, phoneAnswer,
  ⟨.replicate 32 2, ownerKey, laptopCert.toSigningBytes, laptopCert.signature⟩,
  ⟨.replicate 32 2, ownerKey, phoneCert.toSigningBytes, phoneCert.signature⟩,
  ⟨.replicate 32 1, laptopKey, laptopPhoneCert.toSigningBytes, laptopPhoneCert.signature⟩]

/-- A new hub on which the challenges of the two devices are pending. -/
def newHub : AppState where
  db := .migrated
  pendingChallenges := fun key =>
    if key = laptopKey then some ⟨laptopAnswer.message, 60⟩
    else if key = phoneKey then some ⟨phoneAnswer.message, 60⟩
    else none

/-- Ask for a challenge and answer it. -/
def loginWith (answer : RecordedSignature) (cert : Option SubkeyCert) (now : Int) (byte : UInt8) :
    List LoginCall :=
  [.challenge answer.message 0 answer.publicKeyHex,
    .verify (.fixed now byte) (.ofRecorded answer cert)]

/-- A laptop joins, is paired, and a second device follows. -/
theorem logins_canonicalIdentity_paired :
    CanonicalIdentity deviceLib (loginWith laptopAnswer none 10 1 ++
      loginWith laptopAnswer (some laptopCert) 20 2 ++ loginWith phoneAnswer (some phoneCert) 30 3)
      { db := .migrated } :=
  logins_canonicalIdentity _ _ _ rfl (by decide +kernel)

/-- The laptop certifies the phone itself, after its own key was paired with the
owner: the phone's session is filed under the owner. -/
def takenMasterKey : List LoginCall :=
  loginWith laptopAnswer none 10 1 ++ loginWith laptopAnswer (some laptopCert) 20 2 ++
    loginWith phoneAnswer (some laptopPhoneCert) 30 3

theorem takenMasterKey_not_canonicalIdentity :
    Db.migrated.users = ∅ ∧
      ¬ CanonicalIdentity deviceLib takenMasterKey { db := .migrated } := by
  refine ⟨rfl, fun h => ?_⟩
  obtain ⟨hlogged, hmaster⟩ :
      (⟨hexEncode (.replicate 32 3), laptopKey, 30⟩, laptopPhoneCert) ∈
          logAll (LoginCall.exec deviceLib) (LoginCall.certified deviceLib) takenMasterKey
            { db := .migrated } ∧
        (runAll (LoginCall.exec deviceLib) takenMasterKey { db := .migrated }).db.registry
          laptopKey = some (some ownerKey) := by
    decide +kernel
  have hexpected := h.session_master _ _ hlogged
  rw [hmaster] at hexpected
  exact absurd hexpected (by decide)

end Voxply.Hub
