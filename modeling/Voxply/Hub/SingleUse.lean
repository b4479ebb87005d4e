/-
# Login challenges are used once

Three handlers share the map of pending challenges: `challenge` puts one in,
`verify` and `renew` take it out before they look at anything else.  The history
of a run tells which challenges were issued, which were consumed and which
sessions were created.  Over every interleaving a challenge leads to one session
at most, and only while it is the latest of its key and not older than a minute
when it is taken.
-/

import Voxply.Hub.CanonicalIdentity
import Voxply.Hub.LoginStatements

namespace Voxply.Hub

open Voxply.Math Voxply.Identity

variable {lib : Crates} {s t : AppState}

/-! ## Requests -/

/-- The requests that touch pending challenges. The caller of `renew` is
whoever the extractor has found. -/
inductive ChallengeRequest where
  | challenge (challengeBytes : List UInt8) (instant : ℕ) (publicKey : String)
  | verify (env : LoginEnv) (req : VerifyRequest)
  | renew (env : LoginEnv) (user : String) (req : VerifyRequest)

inductive ChallengeAnswer where
  | issued (answer : StatusCode × String)
  | opened (response : VerifyResponse)
  deriving DecidableEq

def ChallengeRequest.handler (lib : Crates) : ChallengeRequest → Handler ChallengeAnswer
  | .challenge challengeBytes instant publicKey => do
      let answer ← Hub.challenge challengeBytes instant publicKey
      pure (.issued answer)
  | .verify env req => do
      let response ← Hub.verify lib env req
      pure (.opened response)
  | .renew env user req => do
      let response ← Hub.renew lib env user req
      pure (.opened response)

/-- The challenge that a request issues: its key, its bytes and when. -/
def ChallengeRequest.issue? : ChallengeRequest → Option (String × List UInt8 × ℕ)
  | .challenge challengeBytes instant publicKey => some (publicKey, challengeBytes, instant)
  | .verify .. => none
  | .renew .. => none

/-- The login that a request attempts. -/
def ChallengeRequest.attempt? : ChallengeRequest → Option (LoginEnv × VerifyRequest)
  | .challenge .. => none
  | .verify env req => some (env, req)
  | .renew env _ req => some (env, req)

/-- The bytes of the challenge that a request issues. -/
def ChallengeRequest.bytes? (request : ChallengeRequest) : Option (List UInt8) :=
  request.issue?.map fun issue => issue.2.1

/-- The bytes of the challenge that a request claims to answer. -/
def ChallengeRequest.answered? (request : ChallengeRequest) : Option (List UInt8) :=
  request.attempt?.bind fun attempt => hexDecode attempt.2.challenge

/-! ## Histories -/

abbrev ChallengeEvent := Event ChallengeRequest AppState

/-- The challenges issued so far, in order. -/
def issued (history : List ChallengeEvent) : List (String × List UInt8 × ℕ) :=
  history.filterMap (·.request.issue?)

/-- The latest challenge of a key. -/
def latestIssue (publicKey : String) (history : List ChallengeEvent) :
    Option (String × List UInt8 × ℕ) :=
  ((issued history).filter (·.1 = publicKey)).getLast?

/-- The challenge that a login has removed from the map. -/
def taken? (e : ChallengeEvent) : Option (List UInt8) :=
  e.request.attempt?.bind fun attempt =>
    if e.after.pendingChallenges attempt.2.publicKey = none then
      (e.before.pendingChallenges attempt.2.publicKey).map (·.challengeBytes)
    else none

/-- The sessions that a statement has created. -/
def created (e : ChallengeEvent) : List SessionRow :=
  e.after.db.sessions.rows.filter (· ∉ e.before.db.sessions.rows)

/-- The sessions created by requests that answer a challenge. -/
def sessionsFor (challengeBytes : List UInt8) (history : List ChallengeEvent) : List SessionRow :=
  (history.filter (·.request.answered? = some challengeBytes)).flatMap created

/-! ## Statements -/

/-- What the three handlers send. -/
def ChallengeRequest.Sends (lib : Crates) :
    ChallengeRequest → List (Sent AppState) → Sent AppState → Prop
  | .challenge challengeBytes instant publicKey => fun past sent =>
      past = [] ∧ sent.statement =
        fun s => s.setChallenge publicKey (some ⟨challengeBytes, instant + 60⟩)
  | .verify env req => LoginSent lib env req
  | .renew env _ req => LoginSent lib env req

theorem ChallengeRequest.handler_follows (lib : Crates) (request : ChallengeRequest) :
    (request.handler lib).Follows (request.Sends lib) (fun _ _ => True) [] := by
  cases request with
  | challenge challengeBytes instant publicKey =>
      exact fun s => ⟨⟨rfl, rfl⟩, trivial⟩
  | verify env req =>
      apply verify_follows.bind
      exact fun _ _ _ _ => trivial
  | renew env user req =>
      apply (renew_follows user).bind
      exact fun _ _ _ _ => trivial

theorem ChallengeRequest.sends_of_attempt {request : ChallengeRequest} {env : LoginEnv}
    {req : VerifyRequest} {past : List (Sent AppState)} {sent : Sent AppState}
    (hattempt : request.attempt? = some (env, req)) (h : request.Sends lib past sent) :
    LoginSent lib env req past sent := by
  cases request with
  | challenge challengeBytes instant publicKey => simp [attempt?] at hattempt
  | verify env' req' =>
      simp only [attempt?, Option.some.injEq, Prod.mk.injEq] at hattempt
      rw [← hattempt.1, ← hattempt.2]
      exact h
  | renew env' user req' =>
      simp only [attempt?, Option.some.injEq, Prod.mk.injEq] at hattempt
      rw [← hattempt.1, ← hattempt.2]
      exact h

/-- What a statement does to challenges and sessions. -/
inductive ChallengeEffect (lib : Crates) (past : List (Sent AppState)) (e : ChallengeEvent) : Prop
  | issue (publicKey : String) (challengeBytes : List UInt8) (instant : ℕ) (hpast : past = [])
      (hissue : e.request.issue? = some (publicKey, challengeBytes, instant))
      (hattempt : e.request.attempt? = none)
      (hafter : e.after =
        e.before.setChallenge publicKey (some ⟨challengeBytes, instant + 60⟩))
  | take (env : LoginEnv) (req : VerifyRequest) (hpast : past = [])
      (hattempt : e.request.attempt? = some (env, req)) (hissue : e.request.issue? = none)
      (hafter : e.after = e.before.setChallenge req.publicKey none)
  | session (env : LoginEnv) (req : VerifyRequest) (canonical : String)
      (hattempt : e.request.attempt? = some (env, req)) (hissue : e.request.issue? = none)
      (hanswered : AnsweredFirst lib env req past)
      (hpending : e.after.pendingChallenges = e.before.pendingChallenges)
      (hfree : ∀ row ∈ e.before.db.sessions.rows, row.token ≠ env.token)
      (hafter : e.after.db.sessions.rows =
        e.before.db.sessions.rows ++ [⟨env.token, canonical, env.now⟩])
  | other (hissue : e.request.issue? = none) (hpast : past ≠ [])
      (hpending : e.after.pendingChallenges = e.before.pendingChallenges)
      (hsessions : e.after.db.sessions = e.before.db.sessions)

theorem executed_insertSession_cases (row : SessionRow) (s : AppState) :
    executed (insertSession row) s = s ∨
      (∀ old ∈ s.db.sessions.rows, old.token ≠ row.token) ∧
        (executed (insertSession row) s).db.sessions.rows = s.db.sessions.rows ++ [row] ∧
        (executed (insertSession row) s).pendingChallenges = s.pendingChallenges ∧
        (executed (insertSession row) s).db.bans = s.db.bans := by
  unfold executed insertSession
  cases hinsert : s.db.sessions.insert? row with
  | none => exact .inl rfl
  | some sessions =>
      obtain ⟨hfree, hrows⟩ := Table.insert?_eq_some_iff.mp hinsert
      dsimp only
      split_ifs
      · exact .inr ⟨hfree, hrows, rfl, rfl⟩
      · exact .inl rfl

theorem challengeEffect_of_login {past : List (Sent AppState)} {e : ChallengeEvent}
    {env : LoginEnv} {req : VerifyRequest} (hattempt : e.request.attempt? = some (env, req))
    (hissue : e.request.issue? = none) (h : LoginSent lib env req past e.toSent) :
    ChallengeEffect lib past e := by
  cases h with
  | take hpast h =>
      apply ChallengeEffect.take env req hpast hattempt hissue
      rw [Sent.after, h]
  | session canonical hanswered h =>
      have hafter : e.after = executed (insertSession ⟨env.token, canonical, env.now⟩)
          e.before := by
        rw [Sent.after, h]
      rcases executed_insertSession_cases ⟨env.token, canonical, env.now⟩ e.before with
        hsame | ⟨hfree, hrows, hpending, -⟩
      · rw [hsame] at hafter
        exact .other hissue hanswered.ne_nil (by rw [hafter]) (by rw [hafter])
      · rw [← hafter] at hrows hpending
        exact .session env req canonical hattempt hissue hanswered hpending hfree hrows
  | other hpast h =>
      have haside := h.aside
      exact .other hissue hpast haside.pendingChallenges haside.sessions

theorem challengeEffect_of_sends {past : List (Sent AppState)} {e : ChallengeEvent}
    (h : e.request.Sends lib past e.toSent) : ChallengeEffect lib past e := by
  cases hrequest : e.request with
  | challenge challengeBytes instant publicKey =>
      rw [hrequest] at h
      apply ChallengeEffect.issue publicKey challengeBytes instant h.1
      · rw [hrequest]
        rfl
      · rw [hrequest]
        rfl
      · rw [Sent.after, h.2]
  | verify env req =>
      have hattempt : e.request.attempt? = some (env, req) := by
        rw [hrequest]
        rfl
      apply challengeEffect_of_login hattempt
      · rw [hrequest]
        rfl
      · exact ChallengeRequest.sends_of_attempt hattempt h
  | renew env user req =>
      have hattempt : e.request.attempt? = some (env, req) := by
        rw [hrequest]
        rfl
      apply challengeEffect_of_login hattempt
      · rw [hrequest]
        rfl
      · exact ChallengeRequest.sends_of_attempt hattempt h

/-! ## The ledger -/

theorem issued_snoc (history : List ChallengeEvent) (e : ChallengeEvent) :
    issued (history ++ [e]) = issued history ++ e.request.issue?.toList := by
  cases h : e.request.issue? <;> simp [issued, h]

theorem mem_issued {history : List ChallengeEvent} {issue : String × List UInt8 × ℕ} :
    issue ∈ issued history ↔ ∃ e ∈ history, e.request.issue? = some issue := by
  simp [issued]

theorem latestIssue_snoc_of_none {history : List ChallengeEvent} {e : ChallengeEvent}
    (h : e.request.issue? = none) (publicKey : String) :
    latestIssue publicKey (history ++ [e]) = latestIssue publicKey history := by
  rw [latestIssue, issued_snoc, h, Option.toList_none, List.append_nil, latestIssue]

theorem latestIssue_snoc {history : List ChallengeEvent} {e : ChallengeEvent}
    {issue : String × List UInt8 × ℕ} (h : e.request.issue? = some issue) (publicKey : String) :
    latestIssue publicKey (history ++ [e]) =
      if issue.1 = publicKey then some issue else latestIssue publicKey history := by
  rw [latestIssue, issued_snoc, h, Option.toList_some, List.filter_append]
  split_ifs with hkey
  · simp [hkey]
  · simp [hkey, latestIssue]

theorem mem_issued_of_latestIssue {history : List ChallengeEvent} {publicKey : String}
    {issue : String × List UInt8 × ℕ} (h : latestIssue publicKey history = some issue) :
    issue ∈ issued history :=
  (List.mem_filter.mp (List.mem_of_getLast? h)).1

/-- The challenges that logins have removed. -/
def consumed (history : List ChallengeEvent) : List (List UInt8) :=
  history.filterMap taken?

theorem consumed_snoc (history : List ChallengeEvent) (e : ChallengeEvent) :
    consumed (history ++ [e]) = consumed history ++ (taken? e).toList := by
  cases h : taken? e <;> simp [consumed, h]

/-- What the history says about the map: a pending challenge is the latest of
its key and has not been consumed, and no challenge is consumed twice. -/
structure Ledger (history : List ChallengeEvent) (t : AppState) : Prop where
  distinct : ∀ first ∈ issued history, ∀ second ∈ issued history,
    first.2.1 = second.2.1 → first = second
  pending : ∀ publicKey found, t.pendingChallenges publicKey = some found →
    found.challengeBytes ∉ consumed history ∧
    ∃ instant, latestIssue publicKey history = some (publicKey, found.challengeBytes, instant) ∧
      found.expiresAt = instant + 60
  nodup : (consumed history).Nodup
  consumed_issued : ∀ challengeBytes ∈ consumed history,
    ∃ issue ∈ issued history, issue.2.1 = challengeBytes

/-- A statement that leaves the map alone and issues nothing. -/
theorem Ledger.of_same {history : List ChallengeEvent} {e : ChallengeEvent}
    (h : Ledger history e.before) (hissue : e.request.issue? = none)
    (hpending : e.after.pendingChallenges = e.before.pendingChallenges) :
    Ledger (history ++ [e]) e.after := by
  have htaken : taken? e = none := by
    unfold taken?
    rw [hpending]
    cases e.request.attempt? with
    | none => rfl
    | some attempt => cases hfound :
        e.before.pendingChallenges attempt.2.publicKey <;> simp [hfound]
  have hissued : issued (history ++ [e]) = issued history := by
    rw [issued_snoc, hissue, Option.toList_none, List.append_nil]
  have hconsumed : consumed (history ++ [e]) = consumed history := by
    rw [consumed_snoc, htaken, Option.toList_none, List.append_nil]
  constructor
  · rw [hissued]
    exact h.distinct
  · intro publicKey found hfound
    rw [hpending] at hfound
    rw [hconsumed, latestIssue_snoc_of_none hissue]
    exact h.pending publicKey found hfound
  · rw [hconsumed]
    exact h.nodup
  · rw [hconsumed, hissued]
    exact h.consumed_issued

/-- A fresh challenge replaces the pending one of its key. -/
theorem Ledger.of_issue {history : List ChallengeEvent} {e : ChallengeEvent} {publicKey : String}
    {challengeBytes : List UInt8} {instant : ℕ} (h : Ledger history e.before)
    (hissue : e.request.issue? = some (publicKey, challengeBytes, instant))
    (hattempt : e.request.attempt? = none)
    (hafter : e.after = e.before.setChallenge publicKey (some ⟨challengeBytes, instant + 60⟩))
    (hfresh : ∀ issue ∈ issued history, issue.2.1 ≠ challengeBytes) :
    Ledger (history ++ [e]) e.after := by
  have htaken : taken? e = none := by
    rw [taken?, hattempt, Option.bind_none]
  have hissued : issued (history ++ [e]) =
      issued history ++ [(publicKey, challengeBytes, instant)] := by
    rw [issued_snoc, hissue, Option.toList_some]
  have hconsumed : consumed (history ++ [e]) = consumed history := by
    rw [consumed_snoc, htaken, Option.toList_none, List.append_nil]
  constructor
  · rw [hissued]
    intro first hfirst second hsecond hsame
    rcases List.mem_append.mp hfirst with hfirst | hfirst <;>
      rcases List.mem_append.mp hsecond with hsecond | hsecond
    · exact h.distinct first hfirst second hsecond hsame
    · rw [List.mem_singleton.mp hsecond] at hsame
      exact absurd hsame (hfresh first hfirst)
    · rw [List.mem_singleton.mp hfirst] at hsame
      exact absurd hsame.symm (hfresh second hsecond)
    · rw [List.mem_singleton.mp hfirst, List.mem_singleton.mp hsecond]
  · intro key found hfound
    rw [hafter, AppState.setChallenge] at hfound
    rw [hconsumed, latestIssue_snoc hissue]
    dsimp only at hfound
    split_ifs at hfound with hkey
    · cases hfound
      rw [if_pos hkey.symm, hkey]
      refine ⟨fun hmem => ?_, instant, rfl, rfl⟩
      obtain ⟨issue, hissue, hbytes⟩ := h.consumed_issued challengeBytes hmem
      exact hfresh issue hissue hbytes
    · rw [if_neg (Ne.symm hkey)]
      exact h.pending key found hfound
  · rw [hconsumed]
    exact h.nodup
  · rw [hconsumed, hissued]
    intro bytes hbytes
    obtain ⟨issue, hissue, hsame⟩ := h.consumed_issued bytes hbytes
    exact ⟨issue, List.mem_append_left _ hissue, hsame⟩

/-- A login removes the pending challenge of its key, if there is one. -/
theorem Ledger.of_take {history : List ChallengeEvent} {e : ChallengeEvent} {env : LoginEnv}
    {req : VerifyRequest} (h : Ledger history e.before) (hissue : e.request.issue? = none)
    (hattempt : e.request.attempt? = some (env, req))
    (hafter : e.after = e.before.setChallenge req.publicKey none) :
    Ledger (history ++ [e]) e.after := by
  have hnone : e.after.pendingChallenges req.publicKey = none := by
    rw [hafter, AppState.setChallenge]
    exact if_pos rfl
  have htaken : taken? e =
      (e.before.pendingChallenges req.publicKey).map (·.challengeBytes) := by
    rw [taken?, hattempt, Option.bind_some, if_pos hnone]
  have hissued : issued (history ++ [e]) = issued history := by
    rw [issued_snoc, hissue, Option.toList_none, List.append_nil]
  have hmem : ∀ bytes ∈ (taken? e).toList, bytes ∉ consumed history ∧
      ∃ instant, (req.publicKey, bytes, instant) ∈ issued history := by
    intro bytes hbytes
    rw [Option.mem_toList, htaken, Option.map_eq_some_iff] at hbytes
    obtain ⟨found, hfound, rfl⟩ := hbytes
    obtain ⟨hnot, instant, hlatest, -⟩ := h.pending req.publicKey found hfound
    exact ⟨hnot, instant, mem_issued_of_latestIssue hlatest⟩
  constructor
  · rw [hissued]
    exact h.distinct
  · intro key found hfound
    rw [latestIssue_snoc_of_none hissue]
    have hkey : key ≠ req.publicKey := by
      rintro rfl
      rw [hnone] at hfound
      cases hfound
    have hbefore : e.before.pendingChallenges key = some found := by
      rw [hafter, AppState.setChallenge] at hfound
      dsimp only at hfound
      rwa [if_neg hkey] at hfound
    obtain ⟨hnot, instant, hlatest, hexpires⟩ := h.pending key found hbefore
    refine ⟨fun hconsumed => ?_, instant, hlatest, hexpires⟩
    rw [consumed_snoc] at hconsumed
    rcases List.mem_append.mp hconsumed with hconsumed | hconsumed
    · exact hnot hconsumed
    · -- Both keys were issued these bytes, so they are one key.
      obtain ⟨-, instant', hissued'⟩ := hmem _ hconsumed
      have hsame := h.distinct _ (mem_issued_of_latestIssue hlatest) _ hissued' rfl
      exact hkey (congrArg Prod.fst hsame)
  · rw [consumed_snoc, List.nodup_append]
    refine ⟨h.nodup, ?_, ?_⟩
    · cases taken? e <;> simp
    · intro first hfirst second hsecond hsame
      exact (hmem second hsecond).1 (hsame ▸ hfirst)
  · intro bytes hbytes
    rw [consumed_snoc] at hbytes
    rw [hissued]
    rcases List.mem_append.mp hbytes with hbytes | hbytes
    · exact h.consumed_issued bytes hbytes
    · obtain ⟨-, instant, hissued'⟩ := hmem bytes hbytes
      exact ⟨_, hissued', rfl⟩

/-! ## Runs -/

/-- Values drawn from a list without repetition come from one position only. -/
theorem index_eq_of_nodup_filterMap {A B : Type} {f : A → Option B} {l : List A}
    (h : (l.filterMap f).Nodup) {i j : ℕ} {a b : A} {c : B} (hi : l[i]? = some a)
    (hj : l[j]? = some b) (ha : f a = some c) (hb : f b = some c) : i = j := by
  rw [List.Nodup, List.pairwise_filterMap, List.pairwise_iff_getElem] at h
  obtain ⟨hilt, rfl⟩ := List.getElem?_eq_some_iff.mp hi
  obtain ⟨hjlt, rfl⟩ := List.getElem?_eq_some_iff.mp hj
  rcases Nat.lt_trichotomy i j with hlt | heq | hlt
  · exact absurd rfl (h i j hilt hjlt hlt c ha c hb)
  · exact heq
  · exact absurd rfl (h j i hjlt hilt hlt c hb c ha)

/-- The jobs are those of a run whose challenges are all different. -/
def KnownJob (requests : List ChallengeRequest) (e : ChallengeEvent) : Prop :=
  requests[e.job]? = some e.request

theorem ledger_of_run {requests : List ChallengeRequest}
    (hdistinct : (requests.filterMap ChallengeRequest.bytes?).Nodup)
    (hquiet : ∀ key, s.pendingChallenges key = none) {history : List ChallengeEvent}
    (hrun : Interleaving (ChallengeRequest.Sends lib) s history t)
    (hknown : ∀ e ∈ history, KnownJob requests e) : Ledger history t := by
  apply hrun.invariant Ledger _ _ hknown
  · refine ⟨by simp [issued], fun key found hfound => ?_, by simp [consumed], by simp [consumed]⟩
    rw [hquiet key] at hfound
    cases hfound
  · intro history e _ hknown _ hgood hledger
    cases challengeEffect_of_sends hgood with
    | issue publicKey challengeBytes instant hpast hissue hattempt hafter =>
        apply hledger.of_issue hissue hattempt hafter
        intro issue hmem hsame
        obtain ⟨other, hother, hotherIssue⟩ := mem_issued.mp hmem
        -- The same bytes mean the same job, but a challenge job sends one statement.
        have hjob : other.job = e.job := by
          apply index_eq_of_nodup_filterMap hdistinct
            (hknown other (List.mem_append_left _ hother)) (hknown e (by simp))
          · rw [ChallengeRequest.bytes?, hotherIssue, Option.map_some, hsame]
          · rw [ChallengeRequest.bytes?, hissue, Option.map_some]
        have hsent : other.toSent ∈ sentBy e.job history :=
          mem_sentBy.mpr ⟨other, hother, hjob, rfl⟩
        rw [hpast] at hsent
        cases hsent
    | take env req hpast hattempt hissue hafter => exact hledger.of_take hissue hattempt hafter
    | session env req canonical hattempt hissue hanswered hpending hfree hafter =>
        exact hledger.of_same hissue hpending
    | other hissue hpast hpending hsessions => exact hledger.of_same hissue hpending

theorem created_eq_nil_of_same {e : ChallengeEvent}
    (h : e.after.db.sessions = e.before.db.sessions) : created e = [] := by
  simp [created, h]

/-- A statement that creates a session belongs to a login that has answered its
challenge, and creates one session under the login's token. -/
theorem session_of_created {past : List (Sent AppState)} {e : ChallengeEvent}
    (h : ChallengeEffect lib past e) (hcreated : created e ≠ []) :
    ∃ env req canonical, e.request.attempt? = some (env, req) ∧ AnsweredFirst lib env req past ∧
      (∀ row ∈ e.before.db.sessions.rows, row.token ≠ env.token) ∧
      e.after.db.sessions.rows = e.before.db.sessions.rows ++ [⟨env.token, canonical, env.now⟩] ∧
      created e = [⟨env.token, canonical, env.now⟩] := by
  cases h with
  | issue publicKey challengeBytes instant hpast hissue hattempt hafter =>
      exact absurd (created_eq_nil_of_same (by rw [hafter]; rfl)) hcreated
  | take env req hpast hattempt hissue hafter =>
      exact absurd (created_eq_nil_of_same (by rw [hafter]; rfl)) hcreated
  | session env req canonical hattempt hissue hanswered hpending hfree hafter =>
      refine ⟨env, req, canonical, hattempt, hanswered, hfree, hafter, ?_⟩
      have hnew : (⟨env.token, canonical, env.now⟩ : SessionRow) ∉ e.before.db.sessions.rows :=
        fun hmem => hfree _ hmem rfl
      rw [created, hafter, List.filter_append]
      simp [hnew]
  | other hissue hpast hpending hsessions =>
      exact absurd (created_eq_nil_of_same hsessions) hcreated

/-- Sessions are never deleted by the three handlers. -/
theorem sessions_grow {past : List (Sent AppState)} {e : ChallengeEvent}
    (h : ChallengeEffect lib past e) :
    ∀ row ∈ e.before.db.sessions.rows, row ∈ e.after.db.sessions.rows := by
  intro row hrow
  cases h with
  | issue publicKey challengeBytes instant hpast hissue hattempt hafter =>
      rw [hafter]
      exact hrow
  | take env req hpast hattempt hissue hafter =>
      rw [hafter]
      exact hrow
  | session env req canonical hattempt hissue hanswered hpending hfree hafter =>
      rw [hafter]
      exact List.mem_append_left _ hrow
  | other hissue hpast hpending hsessions => rwa [hsessions]

/-- The first statement of a login leaves its key without a challenge. -/
theorem pendingChallenges_of_first {e : ChallengeEvent} {env : LoginEnv} {req : VerifyRequest}
    (hattempt : e.request.attempt? = some (env, req)) (h : ChallengeEffect lib [] e) :
    e.after.pendingChallenges req.publicKey = none := by
  cases h with
  | issue _ _ _ _ _ hattempt' _ =>
      rw [hattempt'] at hattempt
      cases hattempt
  | take env' req' _ hattempt' _ hafter =>
      rw [hattempt'] at hattempt
      cases hattempt
      rw [hafter, AppState.setChallenge]
      exact if_pos rfl
  | session _ _ _ _ _ hanswered _ _ _ => exact absurd rfl hanswered.ne_nil
  | other _ hpast _ _ => exact absurd rfl hpast

section Run

variable {requests : List ChallengeRequest} {history : List ChallengeEvent}

/-- A session that a statement has left is still there. -/
theorem session_kept (hrun : Interleaving (ChallengeRequest.Sends lib) s history t)
    {e : ChallengeEvent} (he : e ∈ history) {row : SessionRow}
    (hrow : row ∈ e.after.db.sessions.rows) : row ∈ t.db.sessions.rows := by
  have hgrow : ∀ e ∈ history,
      row ∈ e.before.db.sessions.rows → row ∈ e.after.db.sessions.rows := by
    intro e he
    obtain ⟨pre, post, hsplit⟩ := List.append_of_mem he
    exact sessions_grow (challengeEffect_of_sends (hrun.split hsplit).2.1) row
  exact hrun.kept (fun s => row ∈ s.db.sessions.rows) hgrow he hrow

/-- Where the challenge of a created session comes from: the first statement of
the login took it, and at that point it was the latest of its key. -/
theorem origin_of_created (hdistinct : (requests.filterMap ChallengeRequest.bytes?).Nodup)
    (hquiet : ∀ key, s.pendingChallenges key = none)
    (hrun : Interleaving (ChallengeRequest.Sends lib) s history t)
    (hknown : ∀ e ∈ history, KnownJob requests e) {pre post : List ChallengeEvent}
    {e : ChallengeEvent} (hsplit : history = pre ++ e :: post) (hcreated : created e ≠ []) :
    ∃ env req before first between challengeBytes instant,
      e.request.attempt? = some (env, req) ∧ pre = before ++ first :: between ∧
      first.job = e.job ∧
      latestIssue req.publicKey before = some (req.publicKey, challengeBytes, instant) ∧
      hexDecode req.challenge = some challengeBytes ∧ env.instant ≤ instant + 60 ∧
      taken? first = some challengeBytes := by
  obtain ⟨hpre, hgood, hown⟩ := hrun.split hsplit
  obtain ⟨env, req, canonical, hattempt, ⟨sent, hhead, hanswer⟩, -⟩ :=
    session_of_created (challengeEffect_of_sends hgood) hcreated
  obtain ⟨before, first, between, hbetween, hjob, rfl, hnone⟩ := exists_first_event hhead
  obtain ⟨hbefore, hfirst, -⟩ := hpre.split hbetween
  have hrequest : first.request = e.request := hown first (by simp [hbetween]) hjob
  have hledger : Ledger before first.before := by
    apply ledger_of_run hdistinct hquiet hbefore
    intro other hother
    apply hknown
    rw [hsplit, hbetween]
    simp [hother]
  obtain ⟨found, -, hfound, hintime, hchallenge, -⟩ := challengeAnswer_ok hanswer
  obtain ⟨-, instant, hlatest, hexpires⟩ := hledger.pending _ _ hfound
  refine ⟨env, req, before, first, between, found.challengeBytes, instant, hattempt, hbetween, hjob,
    hlatest, hchallenge, hexpires ▸ hintime, ?_⟩
  -- The first statement of a login is the one that takes the challenge.
  rw [← hrequest] at hattempt
  rw [hjob, hnone] at hfirst
  have hempty := pendingChallenges_of_first hattempt (challengeEffect_of_sends hfirst)
  rw [taken?, hattempt, Option.bind_some, if_pos hempty, hfound, Option.map_some]

/-- Two created sessions never answer one challenge. -/
theorem created_eq_nil_of_answered (hdistinct : (requests.filterMap ChallengeRequest.bytes?).Nodup)
    (hquiet : ∀ key, s.pendingChallenges key = none)
    (hrun : Interleaving (ChallengeRequest.Sends lib) s history t)
    (hknown : ∀ e ∈ history, KnownJob requests e) {pre between post : List ChallengeEvent}
    {first second : ChallengeEvent}
    (hsplit : history = pre ++ first :: between ++ second :: post)
    (hfirst : created first ≠ [])
    (hsame : first.request.answered? = second.request.answered?) : created second = [] := by
  by_contra hsecond
  have hsplit' : history = pre ++ first :: (between ++ second :: post) := by simp [hsplit]
  obtain ⟨env, req, before, taker, mid, bytes, instant, hattempt, hpre, hjob, -, hbytes,
      -, htaken⟩ :=
    origin_of_created hdistinct hquiet hrun hknown hsplit' hfirst
  obtain ⟨env', req', before', taker', mid', bytes', instant', hattempt', hpre', hjob',
      -, hbytes', -,
    htaken'⟩ := origin_of_created hdistinct hquiet hrun hknown hsplit hsecond
  have hbytesEq : bytes' = bytes := by
    rw [ChallengeRequest.answered?, ChallengeRequest.answered?, hattempt, hattempt',
      Option.bind_some, Option.bind_some, hbytes, hbytes'] at hsame
    exact (Option.some.inj hsame).symm
  subst hbytesEq
  -- The challenge was consumed once, so both sessions belong to one job.
  have htakers : taker.job = taker'.job := by
    have hnodup := (ledger_of_run hdistinct hquiet hrun hknown).nodup
    obtain ⟨i, hi⟩ := List.mem_iff_getElem?.mp (show taker ∈ history by simp [hsplit', hpre])
    obtain ⟨j, hj⟩ := List.mem_iff_getElem?.mp (show taker' ∈ history by simp [hsplit, hpre'])
    have hij := index_eq_of_nodup_filterMap hnodup hi hj htaken htaken'
    rw [hij, hj] at hi
    exact congrArg Event.job (Option.some.inj hi).symm
  obtain ⟨hrunFirst, hgoodFirst, -⟩ := hrun.split hsplit'
  obtain ⟨hrunSecond, hgoodSecond, hown⟩ := hrun.split hsplit
  obtain ⟨envFirst, reqFirst, canonical, hattemptFirst, -, -, hrows, -⟩ :=
    session_of_created (challengeEffect_of_sends hgoodFirst) hfirst
  obtain ⟨envSecond, reqSecond, -, hattemptSecond, -, hfree, -, -⟩ :=
    session_of_created (challengeEffect_of_sends hgoodSecond) hsecond
  -- One job has one token, and the first session is still there.
  have hrequest : first.request = second.request :=
    hown first (by simp) (hjob.symm.trans (htakers.trans hjob'))
  rw [hrequest, hattemptSecond] at hattemptFirst
  cases hattemptFirst
  have hrow : (⟨envFirst.token, canonical, envFirst.now⟩ : SessionRow) ∈
      second.before.db.sessions.rows := by
    apply session_kept hrunSecond (show first ∈ pre ++ first :: between by simp)
    rw [hrows]
    simp
  exact hfree _ hrow rfl

theorem sessionsFor_snoc (challengeBytes : List UInt8) (history : List ChallengeEvent)
    (e : ChallengeEvent) :
    sessionsFor challengeBytes (history ++ [e]) = sessionsFor challengeBytes history ++
      if e.request.answered? = some challengeBytes then created e else [] := by
  split_ifs with h <;> simp [sessionsFor, h]

/-- A challenge leads to one session at most. -/
theorem length_sessionsFor_le (hdistinct : (requests.filterMap ChallengeRequest.bytes?).Nodup)
    (hquiet : ∀ key, s.pendingChallenges key = none)
    (hrun : Interleaving (ChallengeRequest.Sends lib) s history t)
    (hknown : ∀ e ∈ history, KnownJob requests e) (challengeBytes : List UInt8) :
    (sessionsFor challengeBytes history).length ≤ 1 := by
  induction hrun with
  | idle => simp [sessionsFor]
  | @exec history t e hrun hbefore hown hgood ih =>
      rw [sessionsFor_snoc]
      by_cases hnew : e.request.answered? = some challengeBytes ∧ created e ≠ []
      · rw [if_pos hnew.1]
        have hearlier : sessionsFor challengeBytes history = [] := by
          rw [sessionsFor, List.flatMap_eq_nil_iff]
          intro first hfirst
          rw [List.mem_filter, decide_eq_true_eq] at hfirst
          by_contra hcreated
          obtain ⟨pre, between, rfl⟩ := List.append_of_mem hfirst.1
          apply hnew.2
          exact created_eq_nil_of_answered hdistinct hquiet
            (Interleaving.exec e hrun hbefore hown hgood) hknown rfl hcreated
            (hfirst.2.trans hnew.1.symm)
        obtain ⟨_, _, _, -, -, -, -, hone⟩ :=
          session_of_created (challengeEffect_of_sends hgood) hnew.2
        rw [hearlier, hone]
        simp
      · have hnothing : (if e.request.answered? = some challengeBytes then created e else []) =
            [] := by
          split_ifs with hanswered
          · by_contra hcreated
            exact hnew ⟨hanswered, hcreated⟩
          · rfl
        rw [hnothing, List.append_nil]
        exact ih fun other hother => hknown other (List.mem_append_left _ hother)

end Run

/-- A login has something to send before it can answer. -/
theorem answer?_handler_of_attempt {request : ChallengeRequest} {env : LoginEnv}
    {req : VerifyRequest} (h : request.attempt? = some (env, req)) :
    (request.handler lib).answer? = none := by
  cases request with
  | challenge challengeBytes instant publicKey => rfl
  | verify env' req' => rfl
  | renew env' user req' => rfl

/-- Follow a schedule of challenges, logins and renewals. -/
abbrev challengeRun (lib : Crates) (moves : List (Move ChallengeRequest)) (s : AppState) :
    Server ChallengeRequest AppState ApiError ChallengeAnswer :=
  serve (ChallengeRequest.handler lib) moves s

/-- Over every interleaving from a state without pending challenges, with
different bytes in every challenge: a challenge leads to one session at most; a
login that has been answered, either way, began by leaving its key without a
pending challenge; and a created session goes back to a challenge that was the
latest of the same key when the login took it, at most a minute old. -/
theorem challenges_single_use (lib : Crates) (moves : List (Move ChallengeRequest)) (s : AppState)
    (hquiet : ∀ key, s.pendingChallenges key = none)
    (hdistinct : ((moves.filterMap Move.request?).filterMap ChallengeRequest.bytes?).Nodup) :
    (∀ challengeBytes,
      (sessionsFor challengeBytes (challengeRun lib moves s).history).length ≤ 1) ∧
    (∀ job request env req, (challengeRun lib moves s).request? job = some request →
      request.attempt? = some (env, req) → (challengeRun lib moves s).answer? job ≠ none →
      ∃ pre e post, (challengeRun lib moves s).history = pre ++ e :: post ∧ e.job = job ∧
        sentBy job pre = [] ∧ e.after.pendingChallenges req.publicKey = none) ∧
    ∀ pre e post, (challengeRun lib moves s).history = pre ++ e :: post → created e ≠ [] →
      ∃ env req before first between challengeBytes instant,
        e.request.attempt? = some (env, req) ∧ pre = before ++ first :: between ∧
        first.job = e.job ∧
        latestIssue req.publicKey before = some (req.publicKey, challengeBytes, instant) ∧
        hexDecode req.challenge = some challengeBytes ∧ env.instant ≤ instant + 60 := by
  have hsound := Server.sound_serve (ChallengeRequest.handler_follows lib) moves s
  have hknown : ∀ e ∈ (challengeRun lib moves s).history,
      KnownJob (moves.filterMap Move.request?) e := by
    intro e he
    rw [KnownJob, ← Server.request?_serve (ChallengeRequest.handler lib) moves s]
    exact hsound.request?_eq he
  refine ⟨length_sessionsFor_le hdistinct hquiet hsound.run hknown, ?_, ?_⟩
  · intro job request env req hjob hattempt hanswer
    have hstarted := hsound.sentBy_ne_nil hjob hanswer (answer?_handler_of_attempt hattempt)
    obtain ⟨sent, hhead⟩ := Option.ne_none_iff_exists'.mp
      (mt List.head?_eq_none_iff.mp hstarted)
    obtain ⟨pre, e, post, hsplit, rfl, -, hnone⟩ := exists_first_event hhead
    refine ⟨pre, e, post, hsplit, rfl, hnone, ?_⟩
    obtain ⟨-, hgood, -⟩ := hsound.run.split hsplit
    rw [hnone] at hgood
    rw [hsound.request?_eq (show e ∈ _ by simp [hsplit])] at hjob
    cases hjob
    exact pendingChallenges_of_first hattempt (challengeEffect_of_sends hgood)
  · intro pre e post hsplit hcreated
    obtain ⟨env, req, before, first, between, bytes, instant, hattempt, hpre, hjob, hlatest, hbytes,
      hintime, -⟩ := origin_of_created hdistinct hquiet hsound.run hknown hsplit hcreated
    exact ⟨env, req, before, first, between, bytes, instant, hattempt, hpre, hjob, hlatest, hbytes,
      hintime⟩

/-- Two logins with one challenge, both started before either takes it. -/
def doubleLogin : List (Move ChallengeRequest) :=
  [.start (.challenge laptopAnswer.message 0 laptopAnswer.publicKeyHex), .exec 0,
    .start (.verify (.fixed 10 1) (.ofRecorded laptopAnswer)),
    .start (.verify (.fixed 10 2) (.ofRecorded laptopAnswer)), .exec 1, .exec 2] ++
    .replicate 20 (.exec 1)

theorem challenges_single_use_doubleLogin :
    sessionsFor laptopAnswer.message
    (challengeRun deviceLib doubleLogin { db := .migrated }).history
        = [⟨hexEncode (.replicate 32 1), laptopKey, 10⟩] ∧
      (sessionsFor laptopAnswer.message
        (challengeRun deviceLib doubleLogin { db := .migrated }).history).length ≤ 1 := by
  refine ⟨by decide +kernel, (challenges_single_use deviceLib doubleLogin _ ?_ ?_).1 _⟩
  · exact fun _ => rfl
  · decide +kernel

end Voxply.Hub
