/-
# The lobby

A hub can ask for a proof of work of some level.  A member whose recorded level is below the
minimum gets a session for the lobby, and `submit_pow` is the way out of it: it checks a
proof and records its level.

Levels are proven in two places and recorded in one.  A login has to come with a proof of
the minimum level, but what it proves is not recorded and does not count for the scope of its
session.  What is recorded is always a level that was proven to `submit_pow`.
-/

import Voxply.Hub.CanonicalIdentity
import Voxply.Hub.LoginWrites

namespace Voxply.Hub

open Voxply.Math Voxply.Identity

/-! ## Handlers -/

structure SubmitPowRequest where
  powProof : String
  deriving DecidableEq

structure SubmitPowResponse where
  promoted : Bool
  newLevel : ℕ
  deriving DecidableEq

/-- The nonce and the level of a proof: `powProof` is cut at its first colon. -/
def parsePowProof (powProof : String) : Except ApiError (ℕ × ℕ) :=
  match powProof.toList.dropWhile (· ≠ ':') with
  | [] => .error ⟨.badRequest, "Invalid pow_proof format; expected nonce:level"⟩
  | _ :: level =>
      match parseUnsigned (2 ^ 64) (String.ofList (powProof.toList.takeWhile (· ≠ ':'))) with
      | none => .error ⟨.badRequest, "Invalid nonce"⟩
      | some nonce =>
          match parseUnsigned (2 ^ 32) (String.ofList level) with
          | none => .error ⟨.badRequest, "Invalid level"⟩
          | some claimedLevel => .ok (nonce, claimedLevel)

/-- The level that a proof establishes for a user. -/
def acceptedLevel (lib : Crates) (user : String) (req : SubmitPowRequest) : Except ApiError ℕ := do
  let (nonce, claimedLevel) ← parsePowProof req.powProof
  if verifySecurityLevel lib.sha256 user (UInt64.ofNat nonce) claimedLevel then .ok claimedLevel
  else .error ⟨.badRequest, "Invalid proof of work"⟩

/-- `UPDATE users SET pow_level = ?, lobby_status = ?, lobby_entered_at =
COALESCE(lobby_entered_at, ?) WHERE public_key = ?`. -/
def recordLevel (user : String) (newLevel : ℕ) (newStatus : LobbyStatus) (now : Int)
    (db : Db) : Db :=
  updateUser user
    (fun row =>
      { row with
        powLevel := newLevel
        lobbyStatus := newStatus
        lobbyEnteredAt := row.lobbyEnteredAt.or (some now) })
    (fun _ => rfl) db

/-- The level to record: the stored one is cast to 32 bits. -/
def raisedLevel (currentPow : Int) (claimedLevel : ℕ) : ℕ :=
  max (currentPow % 2 ^ 32).toNat claimedLevel

def submitPow (lib : Crates) (now : Int) (user : String) (req : SubmitPowRequest) :
    Handler SubmitPowResponse := do
  let minLevel ← fetch (·.minSecurityLevel)
  let claimedLevel ← .ofExcept (acceptedLevel lib user req)
  let currentPow ← fetch (·.powLevel user)
  let newLevel := raisedLevel currentPow claimedLevel
  let promoted := decide (newLevel ≥ minLevel ∧ minLevel > 0)
  write (recordLevel user newLevel (if promoted then .promoted else .lobby) now)
  pure ⟨promoted, newLevel⟩

def Db.lobbyEnabled (db : Db) : Bool :=
  ((db.setting "lobby_enabled").map fun value => decide (value = "1")).getD true

/-- The recorded level as a login reads it. -/
def Db.recordedLevel (db : Db) (user : String) : ℕ :=
  (db.powLevel user % 2 ^ 32).toNat

/-! ## Runs -/

/-- A request that records no levels. It may remove members. -/
structure LevelBystander where
  program : Handler Unit
  leaves : program.Follows (fun _ sent => ∀ user,
    sent.after.db.powLevel user = sent.before.db.powLevel user ∨ sent.after.db.powLevel user = 0)
    (fun _ _ => True) []

inductive LobbyRequest where
  | submitPow (now : Int) (user : String) (req : SubmitPowRequest)
  | verify (env : LoginEnv) (req : VerifyRequest)
  | other (bystander : LevelBystander)

inductive LobbyAnswer where
  | submitted (response : SubmitPowResponse)
  | opened (response : VerifyResponse)
  | done
  deriving DecidableEq

def LobbyRequest.handler (lib : Crates) : LobbyRequest → Handler LobbyAnswer
  | .submitPow now user req => do
      let response ← Hub.submitPow lib now user req
      pure (.submitted response)
  | .verify env req => do
      let response ← Hub.verify lib env req
      pure (.opened response)
  | .other bystander => do
      bystander.program
      pure .done

abbrev LobbyEvent := Event LobbyRequest AppState

/-- Follow a schedule of proofs, logins and other requests. -/
def lobbyRun (lib : Crates) (moves : List (Move LobbyRequest)) (s : AppState) :
    Server LobbyRequest AppState ApiError LobbyAnswer :=
  serve (LobbyRequest.handler lib) moves s

/-! ## What holds -/

/-- A proof of this level was accepted from the user. -/
def Established (lib : Crates) (history : List LobbyEvent) (user : String) (level : ℕ) : Prop :=
  ∃ e ∈ history, ∃ now req, e.request = .submitPow now user req ∧
    acceptedLevel lib user req = .ok level

/-- Members are those whose recorded level reaches the minimum, and only proven levels are
recorded. -/
structure LobbyRight (lib : Crates) (server : Server LobbyRequest AppState ApiError LobbyAnswer) :
    Prop where
  scope : ∀ env req response t, (verify lib env req).run server.state = (.ok response, t) →
    server.state.db.lobbyEnabled = true → 0 < server.state.db.minSecurityLevel →
    (response.scope = "member" ↔ server.state.db.minSecurityLevel ≤
      server.state.db.recordedLevel (server.state.db.canonical req.publicKey req.subkeyCert).1)
  established : ∀ user, server.state.db.powLevel user = 0 ∨
    ∃ level, Established lib server.history user level ∧ server.state.db.powLevel user = level
  rises : ∀ now user req user', server.state.db.powLevel user' ≤
    ((submitPow lib now user req).run server.state).2.db.powLevel user'

/-! ## Levels -/

section Levels

variable {lib : Crates} {s t : AppState} {history : List LobbyEvent} {user : String}

theorem acceptedLevel_lt {req : SubmitPowRequest} {level : ℕ}
    (h : acceptedLevel lib user req = .ok level) : level < 2 ^ 32 := by
  rcases except_bind_eq_ok_iff.mp h with ⟨⟨nonce, claimedLevel⟩, hparse, hverified⟩
  dsimp only at hverified
  split_ifs at hverified
  cases hverified
  unfold parsePowProof at hparse
  split at hparse
  · cases hparse
  split at hparse
  · cases hparse
  split at hparse
  · cases hparse
  · rename_i hlevel
    cases hparse
    exact of_decide_eq_true (Option.filter_eq_some_iff.mp hlevel).2

theorem powLevel_recordLevel (newLevel : ℕ) (newStatus : LobbyStatus) (now : Int) (db : Db)
    (user' : String) :
    (recordLevel user newLevel newStatus now db).powLevel user' =
      if user' = user ∧ db.users.has user = true then (newLevel : Int) else db.powLevel user' := by
  unfold Db.powLevel recordLevel updateUser
  rw [Table.find?_update]
  cases hfind : db.users.find? user' with
  | none =>
      have hnone : ¬ (user' = user ∧ db.users.has user = true) := by
        rintro ⟨rfl, hhas⟩
        rw [Table.find?_eq_none_iff, ← Table.has_eq_false_iff, hhas] at hfind
        cases hfind
      rw [if_neg hnone]
      rfl
  | some row =>
      obtain ⟨hmem, hkey⟩ := Table.find?_eq_some_iff.mp hfind
      by_cases hsame : user' = user
      · have hhas : db.users.has user = true := Table.has_iff.mpr ⟨row, hmem, hkey.trans hsame⟩
        rw [if_pos ⟨hsame, hhas⟩]
        simp [hkey.trans hsame]
      · rw [if_neg fun h => hsame h.1]
        have hother : row.publicKey ≠ user := fun h => hsame (hkey.symm.trans h)
        simp [hother]

/-- What the requests do to the levels. -/
inductive LobbySent (lib : Crates) : LobbyRequest → List (Sent AppState) → Sent AppState → Prop
  | aside {request : LobbyRequest} {past : List (Sent AppState)} {sent : Sent AppState}
      (hlevels : ∀ user, sent.after.db.powLevel user = sent.before.db.powLevel user ∨
        sent.after.db.powLevel user = 0) : LobbySent lib request past sent
  | record {now : Int} {user : String} {req : SubmitPowRequest} {past : List (Sent AppState)}
      {sent read : Sent AppState} {claimedLevel : ℕ} (newStatus : LobbyStatus)
      (hproof : acceptedLevel lib user req = .ok claimedLevel) (hread : read ∈ past)
      (h : sent.statement = written (recordLevel user
        (raisedLevel (read.before.db.powLevel user) claimedLevel) newStatus now)) :
      LobbySent lib (.submitPow now user req) past sent

theorem submitPow_follows {now : Int} {req : SubmitPowRequest} :
    (submitPow lib now user req).Follows (LobbySent lib (.submitPow now user req))
      (fun _ _ => True) [] := by
  have hread : ∀ past u, LobbySent lib (.submitPow now user req) past ⟨id, u⟩ :=
    fun _ _ => .aside fun _ => .inl rfl
  apply follows_fetch_bind (hread _)
  intro s
  apply Prog.follows_ofExcept_bind
  intro claimedLevel hproof
  apply follows_fetch_bind (hread _)
  intro t
  apply follows_write_bind
  · exact fun u => .record _ hproof (List.mem_append_right _ (List.mem_singleton_self _)) rfl
  · exact fun _ => trivial

/-- The settings and the levels are the same. -/
structure SameLevels (s t : AppState) : Prop where
  hubSettings : t.db.hubSettings = s.db.hubSettings
  powLevel : ∀ user, t.db.powLevel user = s.db.powLevel user

theorem SameLevels.refl (s : AppState) : SameLevels s s :=
  ⟨rfl, fun _ => rfl⟩

theorem SameLevels.trans {u : AppState} (h : SameLevels s t) (h' : SameLevels t u) :
    SameLevels s u :=
  ⟨h'.hubSettings.trans h.hubSettings, fun user => (h'.powLevel user).trans (h.powLevel user)⟩

theorem sameLevels_of_loginWrites (past : List (Sent AppState)) (sent : Sent AppState)
    (h : loginWrites past sent) : SameLevels sent.before sent.after :=
  ⟨(h.spared sent.before).hubSettings, (h.spared sent.before).powLevel⟩

/-- Up to the scope of its session a login leaves the settings and the levels alone. -/
theorem verifyToChallenge_levels (lib : Crates) (env : LoginEnv) (req : VerifyRequest) :
    (verifyToChallenge lib env req).Follows (fun _ sent => SameLevels sent.before sent.after)
      (fun _ _ => True) [] :=
  verifyToChallenge_follows _ sameLevels_of_loginWrites fun _ _ _ => ⟨rfl, fun _ => rfl⟩

theorem verify_levels {env : LoginEnv} {req : VerifyRequest} :
    (verify lib env req).Follows (fun _ sent => SameLevels sent.before sent.after)
      (fun _ _ => True) [] :=
  verify_writes _ sameLevels_of_loginWrites (fun _ _ _ => ⟨rfl, fun _ => rfl⟩)
    fun _ _ _ _ => ⟨rfl, fun _ => rfl⟩

theorem LobbyRequest.handler_follows (request : LobbyRequest) :
    (request.handler lib).Follows (LobbySent lib request) (fun _ _ => True) [] := by
  cases request with
  | submitPow now user req => exact submitPow_follows.bind_any fun _ _ _ => trivial
  | verify env req =>
      refine (verify_levels.mono ?_ fun _ _ _ h => h).bind_any fun _ _ _ => trivial
      exact fun past sent _ h => .aside fun user => .inl (h.powLevel user)
  | other bystander =>
      refine (bystander.leaves.mono ?_ fun _ _ _ h => h).bind_any fun _ _ _ => trivial
      exact fun past sent _ h => .aside h

/-- Every level is nil or one that was proven. -/
def LevelsProven (lib : Crates) (history : List LobbyEvent) (u : AppState) : Prop :=
  ∀ user, u.db.powLevel user = 0 ∨
    ∃ level, Established lib history user level ∧ u.db.powLevel user = level

theorem Established.snoc {level : ℕ} (h : Established lib history user level) (last : LobbyEvent) :
    Established lib (history ++ [last]) user level := by
  rcases h with ⟨e, he, hproof⟩
  exact ⟨e, List.mem_append_left _ he, hproof⟩

theorem LevelsProven.snoc {u : AppState} (h : LevelsProven lib history u) (last : LobbyEvent) :
    LevelsProven lib (history ++ [last]) u := by
  intro user
  refine (h user).imp_right ?_
  rintro ⟨level, hlevel, hsame⟩
  exact ⟨level, hlevel.snoc last, hsame⟩

theorem Established.lt {level : ℕ} (h : Established lib history user level) : level < 2 ^ 32 := by
  rcases h with ⟨e, -, now, req, -, hproof⟩
  exact acceptedLevel_lt hproof

/-- A level that was proven is read as it is stored. -/
theorem LevelsProven.recordedLevel {u : AppState} (h : LevelsProven lib history u) (user : String) :
    (u.db.recordedLevel user : Int) = u.db.powLevel user := by
  rw [Db.recordedLevel]
  rcases h user with hnone | ⟨level, hlevel, hsame⟩
  · rw [hnone]
    rfl
  · rw [hsame]
    have := hlevel.lt
    omega

/-- One statement keeps the levels proven, if all levels that were found are. -/
theorem levelsProven_step {last : LobbyEvent}
    (hgood : LobbySent lib last.request (sentBy last.job history) last.toSent)
    (hfound : ∀ e ∈ history, LevelsProven lib history e.before)
    (hbefore : LevelsProven lib history last.before) :
    LevelsProven lib (history ++ [last]) last.after := by
  have hkept := hbefore.snoc last
  generalize hrequest : last.request = request at hgood
  cases hgood with
  | aside hlevels =>
      intro user
      rcases hlevels user with hsame | hnone
      · rw [hsame]
        exact hkept user
      · exact .inl hnone
  | @record now user req _ _ read claimedLevel newStatus hproof hread h =>
      intro user'
      rw [Sent.after, h, written, withDb_db, powLevel_recordLevel]
      split_ifs with hmember
      · -- The new level is the one that was read or the one that was just proven.
        refine .inr ?_
        rw [hmember.1]
        have hnow : Established lib (history ++ [last]) user claimedLevel :=
          ⟨last, by simp, now, req, hrequest, hproof⟩
        rcases mem_sentBy.mp hread with ⟨e, he, -, rfl⟩
        have hraised : raisedLevel (e.before.db.powLevel user) claimedLevel =
          max (e.before.db.recordedLevel user) claimedLevel := rfl
        have hread := (hfound e he).recordedLevel user
        rcases hfound e he user with hnone | ⟨level, hlevel, hsame⟩
        · refine ⟨claimedLevel, hnow, ?_⟩
          rw [hraised]
          omega
        · rcases Nat.le_total level claimedLevel with hless | hmore
          · refine ⟨claimedLevel, hnow, ?_⟩
            rw [hraised]
            omega
          · refine ⟨level, hlevel.snoc last, ?_⟩
            rw [hraised]
            omega
      · exact hkept user'

/-- Along a run, only levels are recorded that were proven. -/
theorem levelsProven_run (h : Interleaving (LobbySent lib) s history t)
    (hstart : ∀ user, s.db.powLevel user = 0) :
    (∀ e ∈ history, LevelsProven lib history e.before) ∧ LevelsProven lib history t := by
  induction h with
  | idle => exact ⟨by simp, fun user => .inl (hstart user)⟩
  | @exec history t last hrun hbefore hown hgood ih =>
      subst hbefore
      rcases ih with ⟨hfound, hnow⟩
      refine ⟨fun e he => ?_, levelsProven_step hgood hfound hnow⟩
      rcases List.mem_append.mp he with hold | hlast
      · exact (hfound e hold).snoc last
      · rw [List.mem_singleton.mp hlast]
        exact hnow.snoc last

end Levels

/-! ## The scope of a session -/

section Scope

variable {lib : Crates} {env : LoginEnv} {req : VerifyRequest} {s t : AppState}

theorem minLevel_of_admission {canonical : String} {minLevel : ℕ}
    (h : s.db.admission lib env req canonical = .ok minLevel) :
    minLevel = s.db.minSecurityLevel := by
  unfold Db.admission at h
  split_ifs at h
  split at h
  · cases h
  split at h
  · cases h
  split at h
  · cases h
  · cases h
    rfl

/-- The identity and the minimum level that a login comes to. -/
theorem verifyToChallenge_ok {member : String × ℕ} {token : Option String}
    (h : (verifyToChallenge lib env req).run s = (.ok (member, token), t)) :
    member = ((s.db.canonical req.publicKey req.subkeyCert).1, s.db.minSecurityLevel) := by
  rcases Prog.run_bind_cases h with ⟨e, -, he⟩ | ⟨⟨canonical, master, minLevel⟩, u, hcheck, h⟩
  · cases he
  obtain ⟨-, -, hcanonical, -, hadmission⟩ := checkLogin_ok hcheck
  rcases Prog.run_bind_cases h with ⟨e, -, he⟩ | ⟨_, v, -, h⟩
  · cases he
  rcases Prog.run_bind_cases h with ⟨e, -, he⟩ | ⟨_, w, -, h⟩
  · cases he
  rcases Prog.run_bind_cases h with ⟨e, -, he⟩ | ⟨_, x, -, h⟩
  · cases he
  rcases Prog.run_bind_cases h with ⟨e, -, he⟩ | ⟨_, y, -, h⟩
  · cases he
  cases h
  rw [hcanonical, minLevel_of_admission hadmission]

theorem run_sessionScope (canonical : String) (minLevel : ℕ) (s : AppState) :
    (sessionScope canonical minLevel).run s =
      (.ok (if s.db.lobbyEnabled = true ∧ s.db.recordedLevel canonical < minLevel then "lobby"
        else "member"), s) := rfl

/-- A login answers with the scope that the recorded level gives. -/
theorem scope_verify {response : VerifyResponse}
    (h : (verify lib env req).run s = (.ok response, t)) (henabled : s.db.lobbyEnabled = true) :
    response.scope = "member" ↔ s.db.minSecurityLevel ≤
      s.db.recordedLevel (s.db.canonical req.publicKey req.subkeyCert).1 := by
  rw [verify_eq_challenge] at h
  rcases Prog.run_bind_cases h with ⟨e, -, he⟩ | ⟨⟨member, token⟩, u, hfirst, h⟩
  · cases he
  have hmember := verifyToChallenge_ok hfirst
  have hlevels : SameLevels s u := by
    have hrel := (verifyToChallenge_levels lib env req).run_rel SameLevels.refl
      (fun _ _ _ => SameLevels.trans) (fun _ _ h => h) s
    rwa [hfirst] at hrel
  rcases Prog.run_bind_cases h with ⟨e, -, he⟩ | ⟨_, v, hconsume, h⟩
  · cases he
  have hlevels' : SameLevels u v := by
    cases token with
    | none =>
        cases hconsume
        exact SameLevels.refl u
    | some token =>
        cases hconsume
        exact ⟨rfl, fun _ => rfl⟩
  have hsame := hlevels.trans hlevels'
  unfold verifyFromChallenge at h
  rw [Prog.run_bind_of_ok (run_sessionScope _ _ v)] at h
  cases h
  have hstill : t.db.lobbyEnabled = true := by
    rw [Db.lobbyEnabled, Db.setting, hsame.hubSettings]
    exact henabled
  have hlevel : ∀ user, t.db.recordedLevel user = s.db.recordedLevel user := by
    intro user
    rw [Db.recordedLevel, Db.recordedLevel, hsame.powLevel]
  rw [hmember, hlevel, ← Nat.not_lt]
  simp only [hstill, true_and]
  split_ifs with hbelow
  · simp [hbelow]
  · simp [hbelow]

end Scope

/-! ## The result -/

/-- A proof of a member does not lower a level that was proven. -/
theorem LevelsProven.le_submitPow {lib : Crates} {history : List LobbyEvent} {s : AppState}
    (h : LevelsProven lib history s) (now : Int) (user : String) (req : SubmitPowRequest)
    (user' : String) :
    s.db.powLevel user' ≤ ((submitPow lib now user req).run s).2.db.powLevel user' := by
  unfold submitPow
  rw [Prog.run_bind_of_ok (run_fetch _ s)]
  cases hproof : acceptedLevel lib user req with
  | error e => rfl
  | ok claimedLevel =>
      rw [Prog.run_bind_of_ok (Prog.run_ofExcept _ s), Prog.run_bind_of_ok (run_fetch _ s),
        Prog.run_bind_of_ok (run_write _ s), Prog.run_pure, withDb_db, powLevel_recordLevel]
      split_ifs with hmember
      · have hraised : s.db.recordedLevel user ≤ raisedLevel (s.db.powLevel user) claimedLevel :=
          Nat.le_max_left _ _
        have hread := h.recordedLevel user
        rw [hmember.1]
        omega
      · exact le_refl _

/-- A login gets the scope of a member exactly if the level that is recorded for the user
reaches the minimum, and what is recorded was proven to `submit_pow`. -/
theorem lobbyRight (lib : Crates) (moves : List (Move LobbyRequest)) (s : AppState)
    (hstart : ∀ user, s.db.powLevel user = 0) : LobbyRight lib (lobbyRun lib moves s) := by
  have hsound : (lobbyRun lib moves s).Sound (LobbyRequest.handler lib) (LobbySent lib)
      (fun _ _ _ => True) s := Server.sound_serve LobbyRequest.handler_follows moves s
  obtain ⟨-, hproven⟩ := levelsProven_run hsound.run hstart
  constructor
  · exact fun env req response t hrun henabled _ => scope_verify hrun henabled
  · exact hproven
  · exact hproven.le_submitPow

/-- The digests of two nonces, apart from the recorded signatures. -/
def lobbyLib : Crates :=
  { deviceLib with
    sha256 := fun bytes =>
      if bytes = asBytes laptopKey ++ leBytes 8 1 then
        [124, 8, 111, 0, 97, 254, 188, 57, 83, 9, 80, 213, 12, 178, 163, 135, 133, 49,
          191, 246, 154, 13, 213, 211, 136, 164, 187, 204, 244, 226, 203, 175]
      else if bytes = asBytes laptopKey ++ leBytes 8 2 then
        [37, 11, 102, 72, 233, 61, 4, 66, 9, 23, 160, 136, 150, 112, 249, 85, 213, 132,
          49, 125, 161, 121, 202, 32, 175, 193, 48, 46, 168, 76, 63, 107]
      else [] }

/-- A new hub that asks for a proof of level 1. -/
def lobbyHub : AppState :=
  newHub.withDb { Db.migrated with
    hubSettings := Db.migrated.hubSettings.replace ⟨"min_security_level", "1"⟩ }

/-- The login of a laptop that proves level 1. -/
def laptopProof : VerifyRequest :=
  { VerifyRequest.ofRecorded laptopAnswer with securityNonce := some 1, securityLevel := some 1 }

/-- The laptop logs in and then proves its level once more. -/
def laptopProves : List (Move LobbyRequest) :=
  .start (.verify (.fixed 10 1) laptopProof) :: .replicate 30 (.exec 0) ++
    [.start (.submitPow 20 laptopKey ⟨"1:1"⟩), .exec 1, .exec 1, .exec 1]

theorem laptopProves_lobbyRight : LobbyRight lobbyLib (lobbyRun lobbyLib laptopProves lobbyHub) :=
  lobbyRight lobbyLib laptopProves lobbyHub fun _ => rfl

/-! ## Proofs that do not count -/

/-- A login proves a level. -/
def VerifyRequest.Proves (lib : Crates) (req : VerifyRequest) (level : ℕ) : Prop :=
  req.securityLevel = some level ∧
    verifySecurityLevel lib.sha256 req.publicKey (req.securityNonce.getD 0) level = true

/-- A user has proven a level: in the login at hand, in an earlier one or to `submit_pow`. -/
inductive ProvenLevel (lib : Crates) (server : Server LobbyRequest AppState ApiError LobbyAnswer)
    (req : VerifyRequest) (user : String) (level : ℕ) : Prop
  | now (h : req.Proves lib level) : ProvenLevel lib server req user level
  | earlier (job : ℕ) (env : LoginEnv) (earlier : VerifyRequest) (response : VerifyResponse)
      (hrequest : server.request? job = some (.verify env earlier))
      (hanswer : server.answer? job = some (.ok (.opened response)))
      (hsession : (server.state.db.sessions.find? response.token).map (·.publicKey) = some user)
      (h : earlier.Proves lib level) : ProvenLevel lib server req user level
  | submitted (h : Established lib server.history user level) :
      ProvenLevel lib server req user level

/-- Every proof counts, and no statement lowers a level. -/
structure EveryProofCounts (lib : Crates)
    (server : Server LobbyRequest AppState ApiError LobbyAnswer) : Prop where
  scope : ∀ env req response t, (verify lib env req).run server.state = (.ok response, t) →
    server.state.db.lobbyEnabled = true → 0 < server.state.db.minSecurityLevel →
    (response.scope = "member" ↔ ∃ level, server.state.db.minSecurityLevel ≤ level ∧
      ProvenLevel lib server req (server.state.db.canonical req.publicKey req.subkeyCert).1 level)
  established : ∀ user, server.state.db.powLevel user = 0 ∨
    ∃ level, Established lib server.history user level ∧ server.state.db.powLevel user = level
  rises : ∀ e ∈ server.history, ∀ user, e.before.db.powLevel user ≤ e.after.db.powLevel user

/-- The laptop proves two levels at the same time, the lower one last. -/
def twoProofs : List (Move LobbyRequest) :=
  .start (.verify (.fixed 10 1) laptopProof) :: .replicate 30 (.exec 0) ++
    [.start (.submitPow 20 laptopKey ⟨"2:2"⟩), .start (.submitPow 20 laptopKey ⟨"1:1"⟩), .exec 1,
      .exec 2, .exec 1, .exec 2, .exec 1, .exec 2]

/-- The proof of a login does not count for its scope, and of two proofs at the same time the
lower one may win. -/
theorem laptopProof_not_everyProofCounts :
    ¬ EveryProofCounts lobbyLib (lobbyRun lobbyLib [] lobbyHub) ∧
      ¬ EveryProofCounts lobbyLib (lobbyRun lobbyLib twoProofs lobbyHub) := by
  constructor
  · intro h
    have hlobby : ((verify lobbyLib (.fixed 10 1) laptopProof).run lobbyHub).1 =
        .ok ⟨hexEncode (.replicate 32 1), "lobby"⟩ := by
      decide +kernel
    have hproves : laptopProof.Proves lobbyLib 1 := ⟨rfl, by decide +kernel⟩
    have hmember := (h.scope (.fixed 10 1) laptopProof _ _ (Prod.ext hlobby rfl) (by decide +kernel)
      (by decide +kernel)).mpr ⟨1, by decide +kernel, .now hproves⟩
    exact absurd hmember (by decide)
  · intro h
    have hlowered : ∃ e ∈ (lobbyRun lobbyLib twoProofs lobbyHub).history,
        e.after.db.powLevel laptopKey < e.before.db.powLevel laptopKey := by
      decide +kernel
    rcases hlowered with ⟨e, he, hless⟩
    exact absurd (h.rises e he laptopKey) (not_le.mpr hless)

end Voxply.Hub
