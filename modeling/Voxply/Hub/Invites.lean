/-
# Invites

An invite may be limited to a number of uses and may expire.  `validate_and_use_invite`
reads the invite, checks it, and counts the use in a second statement.  Logins call it;
invites are also created and revoked, and everything else that goes on at the hub leaves
them alone.

Each use is counted, the limit is kept and nobody uses an invite after it has expired, as
long as a use is counted only while the invite that was read is still there and not used
up.  Two logins that read the last use of an invite both get in.
-/

import Voxply.Hub.Channels
import Voxply.Hub.LoginWrites

namespace Voxply.Hub

open Voxply.Math Voxply.Identity

/-! ## Handlers -/

structure CreateInviteRequest where
  maxUses : Option Int
  expiresInSeconds : Option Int
  deriving DecidableEq

/-- What the surroundings supply when an invite is created: the clock and the random
bytes of its code. -/
structure InviteEnv where
  now : Int
  codeBytes : List UInt8
  deriving DecidableEq

/-- `INSERT INTO invites`. -/
def insertInvite (row : InviteRow) (db : Db) : Except SqlError Db :=
  match db.invites.insert? row with
  | none => .error (.primaryKey "invites.code")
  | some invites => .ok { db with invites := invites }

/-- `DELETE FROM invites WHERE code = ?`. -/
def deleteInvite (code : String) (db : Db) : Db :=
  { db with invites := db.invites.keep (·.code ≠ code) }

/-- The row of a new invite, and what is answered about it. -/
def newInvite (env : InviteEnv) (user : String) (req : CreateInviteRequest) : InviteRow where
  code := hexEncode env.codeBytes
  createdBy := user
  maxUses := req.maxUses
  uses := 0
  expiresAt := req.expiresInSeconds.map (env.now + ·)
  createdAt := env.now

def Invites.createInvite (env : InviteEnv) (user : String) (req : CreateInviteRequest) :
    Handler (StatusCode × InviteRow) := do
  let perms ← userPermissions user
  .ofExcept (perms.require manageChannels)
  execute (insertInvite (newInvite env user req))
  pure (.created, newInvite env user req)

def Invites.revokeInvite (user code : String) : Handler StatusCode := do
  let perms ← userPermissions user
  .ofExcept (perms.require manageChannels)
  write (deleteInvite code)
  pure .noContent

/-! ## Requests -/

/-- A request that leaves the invites alone. -/
structure Bystander where
  program : Handler Unit
  leaves : program.Follows (fun _ sent => sent.after.db.invites = sent.before.db.invites)
    (fun _ _ => True) []

inductive InviteRequest where
  | validate (now : Int) (code : String)
  | verify (env : LoginEnv) (req : VerifyRequest)
  | create (env : InviteEnv) (user : String) (req : CreateInviteRequest)
  | revoke (user code : String)
  | other (bystander : Bystander)

/-- `validate_and_use_invite` up to the statement that counts. -/
def validateInvite (now : Int) (code : String) : Handler Unit := do
  let invite ← fetch (·.invites.find? code)
  .ofExcept (checkInvite now invite)

namespace InviteRequest

def handler (lib : Crates) : InviteRequest → Handler Unit
  | .validate now code => validateAndUseInvite now code
  | .verify env req => do
      let _ ← Hub.verify lib env req
  | .create env user req => do
      let _ ← Invites.createInvite env user req
  | .revoke user code => do
      let _ ← Invites.revokeInvite user code
  | .other bystander => bystander.program

/-- The code whose use the next statement counts, and when the request has looked at the
clock. -/
def counts? (lib : Crates) : InviteRequest → List (Sent AppState) → Option (String × Int)
  | .validate now code, past => ((validateInvite now code).returned? past).map fun _ => (code, now)
  | .verify env req, past =>
      ((verifyToInvite lib env req).found? past).map fun code => (code, env.inviteNow)
  | .create _ _ _, _ => none
  | .revoke _ _, _ => none
  | .other _, _ => none

end InviteRequest

abbrev InviteEvent := Event InviteRequest AppState

/-- Follow a schedule of requests. -/
def inviteRun (lib : Crates) (moves : List (Move InviteRequest)) (s : AppState) :
    Server InviteRequest AppState ApiError Unit :=
  serve (InviteRequest.handler lib) moves s

/-! ## What is to hold -/

def Db.inviteUses (db : Db) (code : String) : Int :=
  ((db.invites.find? code).map (·.uses)).getD 0

/-- The statement of the event has created the invite. -/
def creates (code : String) (e : InviteEvent) : Bool :=
  !e.before.db.invites.has code && e.after.db.invites.has code

section Right

variable (lib : Crates) (code : String)

/-- How often an invite has been used, given the events with the latest first: since it
was created, or on top of what it had been used at first. -/
def usesSince (first : Int) : List InviteEvent → Int
  | [] => first
  | e :: earlier =>
      if creates code e = true then 0
      else if (e.request.counts? lib (sentBy e.job earlier.reverse)).any (·.1 = code) then
        usesSince first earlier + 1
      else usesSince first earlier

/-- The number of successful uses of an invite. -/
def timesUsed (s : AppState) (history : List InviteEvent) : Int :=
  usesSince lib code (s.db.inviteUses code) history.reverse

end Right

/-- No invite has been used too often. -/
def Db.InvitesLimited (db : Db) : Prop :=
  ∀ row ∈ db.invites.rows, ∀ limit ∈ row.maxUses, row.uses ≤ max 0 limit

instance decidableInvitesLimited (db : Db) : Decidable db.InvitesLimited :=
  inferInstanceAs (Decidable (∀ row ∈ db.invites.rows, ∀ limit ∈ row.maxUses,
    row.uses ≤ max 0 limit))

/-- The uses of every invite are counted, the limit is kept, and whoever uses an invite
does so while it has not expired. -/
structure InvitesRight (lib : Crates) (s : AppState) (history : List InviteEvent) (t : AppState) :
    Prop where
  counted : ∀ row ∈ t.db.invites.rows, row.uses = timesUsed lib row.code s history
  limited : t.db.InvitesLimited
  unexpired : ∀ pre e post, history = pre ++ e :: post → ∀ code now,
    e.request.counts? lib (sentBy e.job pre) = some (code, now) →
      ∃ row ∈ e.before.db.invites.find? code, ∀ expiry ∈ row.expiresAt, now ≤ expiry

/-- The same invite, up to its uses. -/
def InviteRow.sameAs (row other : InviteRow) : Bool :=
  { row with uses := other.uses } = other

/-- A use is counted while the invite that was read is still there and not used up. -/
def CountsRight (lib : Crates) (history : List InviteEvent) : Prop :=
  ∀ pre e post, history = pre ++ e :: post → ∀ found ∈ e.request.counts? lib (sentBy e.job pre),
    ∀ read ∈ (sentBy e.job pre).getLast?, ∀ invite ∈ read.before.db.invites.find? found.1,
      ∃ row ∈ e.before.db.invites.find? found.1,
        row.sameAs invite = true ∧ ∀ limit ∈ row.maxUses, row.uses < limit

/-! ## Statements -/

section Statements

variable {lib : Crates} {past : List (Sent AppState)} {sent : Sent AppState}

/-- What the requests send. -/
inductive InviteSent (lib : Crates) (request : InviteRequest) (past : List (Sent AppState))
    (sent : Sent AppState) : Prop
  | aside (hcounts : request.counts? lib past = none)
      (h : sent.after.db.invites = sent.before.db.invites)
  | count (code : String) (now : Int) (hcounts : request.counts? lib past = some (code, now))
      (hread : ∃ s, past.getLast? = some ⟨id, s⟩ ∧
        checkInvite now (s.db.invites.find? code) = .ok ())
      (h : sent.statement = written (useInvite code))
  | create (row : InviteRow) (hcounts : request.counts? lib past = none) (huses : row.uses = 0)
      (h : sent.statement = executed (insertInvite row))
  | revoke (code : String) (hcounts : request.counts? lib past = none)
      (h : sent.statement = written (deleteInvite code))

/-- A write of a login leaves the invites alone. -/
theorem invites_of_loginWrite (h : loginWrites past sent) :
    sent.after.db.invites = sent.before.db.invites :=
  (h.spared sent.before).invites

theorem validateAndUseInvite_eq (now : Int) (code : String) :
    validateAndUseInvite now code =
      (validateInvite now code >>= fun _ => write (useInvite code)) := by
  rw [validateInvite, Prog.bind_assoc]
  rfl

theorem validate_follows {now : Int} {code : String} :
    (validateAndUseInvite now code).Follows (InviteSent lib (.validate now code))
      (fun _ _ => True) [] := by
  have hvalidate : (validateInvite now code).Follows
      (fun _ sent => sent.after.db.invites = sent.before.db.invites)
      (fun _ past => ∃ s, past.getLast? = some ⟨id, s⟩ ∧
        checkInvite now (s.db.invites.find? code) = .ok ()) [] := by
    apply follows_fetch_bind fun _ => rfl
    intro s
    apply Prog.follows_ofExcept
    exact fun _ hvalid => ⟨s, rfl, hvalid⟩
  rw [validateAndUseInvite_eq]
  apply hvalidate.cut
  · intro past sent hrunning h
    apply InviteSent.aside _ h
    show ((validateInvite now code).returned? past).map _ = none
    rw [hrunning]
    rfl
  · intro a past hreturned hread
    refine follows_write (fun s => .count code now ?_ hread rfl) fun _ => trivial
    show ((validateInvite now code).returned? past).map _ = _
    rw [hreturned]
    rfl

theorem verifyFromInvite_writes {env : LoginEnv} {req : VerifyRequest} (member : String × ℕ) :
    (verifyFromInvite env req member).Follows
      (fun _ sent => sent.after.db.invites = sent.before.db.invites) (fun _ _ => True) past := by
  apply ((assignRoles_writes member.1).mono (fun _ _ _ => invites_of_loginWrite) fun _ _ _ h =>
    h).bind_any
  intro _ past _
  rw [challengeGate_eq]
  apply Prog.Follows.bind_any
  · apply (findChallengeToken_writes.mono (fun _ _ _ => invites_of_loginWrite) fun _ _ _ h =>
      h).bind_any
    intro token past _
    apply Prog.follows_whenSome _ fun _ => trivial
    exact fun token _ => follows_write (fun _ => rfl) fun _ => trivial
  intro _ past _
  apply ((sessionScope_writes member.1 member.2).mono (fun _ _ _ => invites_of_loginWrite)
    fun _ _ _ h => h).bind_any
  exact fun _ _ _ => trivial

theorem verify_invites {env : LoginEnv} {req : VerifyRequest} :
    (verify lib env req).Follows (InviteSent lib (.verify env req)) (fun _ _ => True) [] := by
  have hcounts : ∀ past, (InviteRequest.verify env req).counts? lib past =
      ((verifyToInvite lib env req).found? past).map fun code => (code, env.inviteNow) :=
    fun _ => rfl
  rw [verify_eq_invite]
  refine Prog.Follows.cut_once
    (verifyToInvite_writes.mono (fun _ _ _ => invites_of_loginWrite) fun _ _ _ h => h) ?_ ?_
    fun member _ => verifyFromInvite_writes member
  · intro past sent hnone h
    refine .aside ?_ h
    rw [hcounts, hnone]
    rfl
  · intro member code past s hcode hread
    refine .count code env.inviteNow ?_ (hread code rfl) rfl
    rw [hcounts, hcode]
    rfl

/-- Asking for permissions leaves everything alone. -/
theorem userPermissions_aside {request : InviteRequest} {user : String}
    (hcounts : ∀ past, request.counts? lib past = none) :
    (userPermissions user).Follows (InviteSent lib request) (fun _ _ => True) past := by
  apply (userPermissions_reads user).mono
  · intro past' sent _ hread
    refine .aside (hcounts past') ?_
    rw [Sent.after, hread]
    rfl
  · exact fun _ _ _ _ => trivial

theorem InviteRequest.handler_follows (request : InviteRequest) :
    (request.handler lib).Follows (InviteSent lib request) (fun _ _ => True) [] := by
  cases request with
  | validate now code => exact validate_follows
  | verify env req => exact verify_invites.bind_any fun _ _ _ => trivial
  | create env user req =>
      apply Prog.Follows.bind_any
      · apply (userPermissions_aside fun _ => rfl).bind_any
        intro perms past _
        apply Prog.follows_ofExcept_bind
        intro _ _
        apply follows_execute_bind
        · exact fun s => .create (newInvite env user req) rfl rfl rfl
        · exact fun _ _ _ => trivial
      · exact fun _ _ _ => trivial
  | revoke user code =>
      apply Prog.Follows.bind_any
      · apply (userPermissions_aside fun _ => rfl).bind_any
        intro perms past _
        apply Prog.follows_ofExcept_bind
        intro _ _
        apply follows_write_bind
        · exact fun s => .revoke code rfl rfl
        · exact fun _ => trivial
      · exact fun _ _ _ => trivial
  | other bystander =>
      exact bystander.leaves.mono (fun _ _ _ h => .aside rfl h) fun _ _ _ h => h

end Statements

/-! ## Runs -/

section Runs

variable {lib : Crates} {s t : AppState} {history : List InviteEvent}

theorem timesUsed_snoc (code : String) (last : InviteEvent) :
    timesUsed lib code s (history ++ [last]) =
      if creates code last = true then 0
      else if (last.request.counts? lib (sentBy last.job history)).any (·.1 = code) then
        timesUsed lib code s history + 1
      else timesUsed lib code s history := by
  rw [timesUsed, List.reverse_append, List.reverse_singleton, List.singleton_append, usesSince,
    List.reverse_reverse, timesUsed]

/-- An invite that is there is not created. -/
theorem creates_eq_false {last : InviteEvent} {row : InviteRow}
    (hrow : row ∈ last.before.db.invites.rows) : creates row.code last = false := by
  have hhas : last.before.db.invites.has row.code = true := Table.has_iff.mpr ⟨row, hrow, rfl⟩
  rw [creates, hhas]
  rfl

theorem timesUsed_of_aside {last : InviteEvent} {row : InviteRow}
    (hcounts : last.request.counts? lib (sentBy last.job history) = none)
    (hrow : row ∈ last.before.db.invites.rows) :
    timesUsed lib row.code s (history ++ [last]) = timesUsed lib row.code s history := by
  rw [timesUsed_snoc, creates_eq_false hrow, if_neg Bool.false_ne_true, hcounts]
  rfl

/-- What an accepted invite looks like. -/
theorem checkInvite_ok {now : Int} {invite : Option InviteRow}
    (h : checkInvite now invite = .ok ()) :
    ∃ row, invite = some row ∧ (∀ expiry ∈ row.expiresAt, now ≤ expiry) ∧
      ∀ limit ∈ row.maxUses, row.uses < limit := by
  unfold checkInvite at h
  cases invite with
  | none => cases h
  | some row =>
      dsimp only at h
      split_ifs at h with hexpired hused
      refine ⟨row, rfl, ?_, ?_⟩
      · intro expiry hexpiry
        by_contra hlate
        apply hexpired
        rw [Option.mem_def.mp hexpiry, Option.any_some, decide_eq_true_eq]
        omega
      · intro limit hlimit
        by_contra hfull
        apply hused
        rw [Option.mem_def.mp hlimit, Option.any_some, decide_eq_true_eq]
        omega

theorem expiresAt_of_sameAs {row other : InviteRow} (h : row.sameAs other = true) :
    row.expiresAt = other.expiresAt := by
  have hsame : { row with uses := other.uses } = other := of_decide_eq_true h
  rw [← hsame]

theorem CountsRight.init {last : InviteEvent} (h : CountsRight lib (history ++ [last])) :
    CountsRight lib history := by
  rintro pre e post rfl
  exact h pre e (post ++ [last]) (by simp)

/-- Every use finds the invite that was read. -/
theorem CountsRight.found (hright : CountsRight lib history)
    (h : Interleaving (InviteSent lib) s history t) {pre post : List InviteEvent} {e : InviteEvent}
    (hsplit : history = pre ++ e :: post) {code : String} {now : Int}
    (hcounts : e.request.counts? lib (sentBy e.job pre) = some (code, now)) :
    ∃ row ∈ e.before.db.invites.find? code, (∀ expiry ∈ row.expiresAt, now ≤ expiry) ∧
      ∀ limit ∈ row.maxUses, row.uses < limit := by
  have hread : ∃ u, (sentBy e.job pre).getLast? = some ⟨id, u⟩ ∧
      checkInvite now (u.db.invites.find? code) = .ok () := by
    rcases (h.split hsplit).2.1 with ⟨hnone, -⟩ | ⟨code', now', hsome, hread, -⟩ |
      ⟨row, hnone, -, -⟩ | ⟨code', hnone, -⟩
    · rw [hcounts] at hnone
      cases hnone
    · rw [hcounts] at hsome
      cases hsome
      exact hread
    · rw [hcounts] at hnone
      cases hnone
    · rw [hcounts] at hnone
      cases hnone
  rcases hread with ⟨u, hlast, hvalid⟩
  rcases checkInvite_ok hvalid with ⟨invite, hinvite, hexpiry, -⟩
  rcases hright pre e post hsplit _ hcounts _ hlast invite hinvite with ⟨row, hrow, hsame, hlimit⟩
  refine ⟨row, hrow, ?_, hlimit⟩
  rw [expiresAt_of_sameAs hsame]
  exact hexpiry

/-- What happens to the invites that are there. -/
theorem useInvite_cases {code : String} {db : Db} {row' : InviteRow}
    (h : row' ∈ (useInvite code db).invites.rows) :
    ∃ row ∈ db.invites.rows, (row.code = code ∧ row' = { row with uses := row.uses + 1 }) ∨
      (row.code ≠ code ∧ row' = row) := by
  unfold useInvite at h
  rw [Table.rows_update, List.mem_map] at h
  rcases h with ⟨row, hrow, rfl⟩
  refine ⟨row, hrow, ?_⟩
  by_cases hcode : row.code = code
  · exact .inl ⟨hcode, by simp [hcode]⟩
  · exact .inr ⟨hcode, by simp [hcode]⟩

theorem rows_insertInvite {row : InviteRow} {db db' : Db} (h : insertInvite row db = .ok db') :
    (∀ old ∈ db.invites.rows, old.code ≠ row.code) ∧
      db'.invites.rows = db.invites.rows ++ [row] := by
  unfold insertInvite at h
  split at h
  · cases h
  · rename_i invites hinvites
    cases h
    exact Table.insert?_eq_some_iff.mp hinvites

/-- One event keeps the count and the limit. -/
theorem counted_step {last : InviteEvent} (hgood : InviteSent lib last.request
      (sentBy last.job history) last.toSent)
    (hfound : ∀ code now, last.request.counts? lib (sentBy last.job history) = some (code, now) →
      ∃ row ∈ last.before.db.invites.find? code, ∀ limit ∈ row.maxUses, row.uses < limit)
    (hcounted : ∀ row ∈ last.before.db.invites.rows, row.uses = timesUsed lib row.code s history)
    (hlimited : last.before.db.InvitesLimited) :
    (∀ row ∈ last.after.db.invites.rows,
        row.uses = timesUsed lib row.code s (history ++ [last])) ∧
      last.after.db.InvitesLimited := by
  cases hgood with
  | aside hcounts h =>
      rw [Db.InvitesLimited, h]
      refine ⟨fun row hrow => ?_, hlimited⟩
      rw [timesUsed_of_aside hcounts hrow]
      exact hcounted row hrow
  | count code now hcounts _ h =>
      rcases hfound code now hcounts with ⟨invite, hinvite, hbelow⟩
      have hany : ∀ other : String,
          ((last.request.counts? lib (sentBy last.job history)).any (·.1 = other)) =
            decide (code = other) := by
        intro other
        rw [hcounts]
        rfl
      rw [Sent.after, h]
      constructor
      · intro row' hrow'
        rcases useInvite_cases hrow' with ⟨row, hrow, ⟨hcode, rfl⟩ | ⟨hcode, rfl⟩⟩
        · show row.uses + 1 = timesUsed lib row.code s _
          rw [timesUsed_snoc, creates_eq_false hrow, if_neg Bool.false_ne_true, hany,
            if_pos (decide_eq_true hcode.symm), hcounted row hrow]
        · rw [timesUsed_snoc, creates_eq_false hrow, if_neg Bool.false_ne_true, hany,
            if_neg (by simp [Ne.symm hcode]), hcounted row' hrow]
      · intro row' hrow' limit hlimit
        rcases useInvite_cases hrow' with ⟨row, hrow, ⟨hcode, rfl⟩ | ⟨hcode, rfl⟩⟩
        · have hsame : row = invite := by
            have hrow' : last.before.db.invites.find? code = some row :=
              Table.find?_eq_some_iff.mpr ⟨hrow, hcode⟩
            rw [Option.mem_def.mp hinvite] at hrow'
            exact (Option.some.inj hrow').symm
          subst hsame
          have hroom := hbelow limit hlimit
          show row.uses + 1 ≤ max 0 limit
          omega
        · exact hlimited row' hrow limit hlimit
  | create row hcounts huses h =>
      rw [Sent.after, h]
      rcases executed_cases (insertInvite row) last.before with hsame | ⟨db, hdb, hafter⟩
      · rw [hsame]
        refine ⟨fun row hrow => ?_, hlimited⟩
        rw [timesUsed_of_aside hcounts hrow]
        exact hcounted row hrow
      · rcases rows_insertInvite hdb with ⟨hfree, hrows⟩
        rw [hafter, withDb_db, Db.InvitesLimited, hrows]
        constructor
        · intro row' hrow'
          rcases List.mem_append.mp hrow' with hold | hnew
          · rw [timesUsed_of_aside hcounts hold]
            exact hcounted row' hold
          · rw [List.mem_singleton.mp hnew, huses, timesUsed_snoc, if_pos]
            have habsent : last.before.db.invites.has row.code = false :=
              Table.has_eq_false_iff.mpr hfree
            have hpresent : last.after.db.invites.has row.code = true := by
              rw [Sent.after, h, hafter]
              exact Table.has_iff.mpr ⟨row, by rw [withDb_db, hrows]; simp, rfl⟩
            rw [creates, habsent, hpresent]
            rfl
        · intro row' hrow' limit hlimit
          rcases List.mem_append.mp hrow' with hold | hnew
          · exact hlimited row' hold limit hlimit
          · rw [List.mem_singleton.mp hnew, huses]
            exact le_max_left 0 limit
  | revoke code hcounts h =>
      have hkept : ∀ row ∈ last.after.db.invites.rows, row ∈ last.before.db.invites.rows := by
        intro row hrow
        rw [Sent.after, h] at hrow
        exact (List.mem_filter.mp hrow).1
      refine ⟨fun row hrow => ?_, fun row hrow => hlimited row (hkept row hrow)⟩
      rw [timesUsed_of_aside hcounts (hkept row hrow)]
      exact hcounted row (hkept row hrow)

/-- Along a run, uses are counted and limits are kept. -/
theorem counted_run (h : Interleaving (InviteSent lib) s history t)
    (hright : CountsRight lib history) (hlimited : s.db.InvitesLimited) :
    (∀ row ∈ t.db.invites.rows, row.uses = timesUsed lib row.code s history) ∧
      t.db.InvitesLimited := by
  induction h with
  | idle =>
      refine ⟨fun row hrow => ?_, hlimited⟩
      have hfind : s.db.invites.find? row.code = some row := Table.find?_eq_some_iff.mpr ⟨hrow, rfl⟩
      show row.uses = s.db.inviteUses row.code
      rw [Db.inviteUses, hfind]
      rfl
  | @exec history t last hrun hbefore hown hgood ih =>
      subst hbefore
      have hall : Interleaving (InviteSent lib) s (history ++ [last]) last.after :=
        .exec last hrun rfl hown hgood
      rcases ih hright.init with ⟨hcounted, hlimited'⟩
      refine counted_step hgood ?_ hcounted hlimited'
      intro code now hcounts
      rcases hright.found hall rfl hcounts with ⟨row, hrow, -, hlimit⟩
      exact ⟨row, hrow, hlimit⟩

theorem inviteRun_sound (lib : Crates) (moves : List (Move InviteRequest)) (s : AppState) :
    (inviteRun lib moves s).Sound (InviteRequest.handler lib) (InviteSent lib)
      (fun _ _ _ => True) s :=
  Server.sound_serve InviteRequest.handler_follows moves s

end Runs

/-- As long as a use is counted only while the invite that was read is there and not used
up, every use is counted, no invite is used too often and none after it has expired. -/
theorem invitesRight_of_countsRight (lib : Crates) (moves : List (Move InviteRequest))
    (s : AppState)
    (hlimited : s.db.InvitesLimited) (hright : CountsRight lib (inviteRun lib moves s).history) :
    InvitesRight lib s (inviteRun lib moves s).history (inviteRun lib moves s).state where
  counted := (counted_run (inviteRun_sound lib moves s).run hright hlimited).1
  limited := (counted_run (inviteRun_sound lib moves s).run hright hlimited).2
  unexpired _ _ _ hsplit _ _ hcounts := by
    rcases hright.found (inviteRun_sound lib moves s).run hsplit hcounts with ⟨row,
      hrow, hexpiry, -⟩
    exact ⟨row, hrow, hexpiry⟩

/-- A hub with an owner and an invite that may be used so often. -/
def invitingHub (limit : Int) : AppState where
  db := { Db.migrated with
    users := .single { publicKey := "owner", firstSeenAt := 0, lastSeenAt := 0 }
    userRoles := .single ⟨"owner", "builtin-owner", 0⟩
    invites := ⟨[⟨"c0ffee", "owner", some limit, 0, some 100, 0⟩], by simp⟩ }

/-- Two guests come at the same time while the owner makes another invite and then revokes
the first one. -/
def guestsCome : List (Move InviteRequest) :=
  [.start (.validate 10 "c0ffee"), .start (.validate 10 "c0ffee"),
    .start (.create ⟨10, [1, 2, 3, 4, 5, 6]⟩ "owner" ⟨some 1, none⟩), .exec 0, .exec 1, .exec 2,
    .exec 1, .exec 0, .exec 2, .exec 2, .start (.revoke "owner" "c0ffee"), .exec 3,
      .exec 3, .exec 3]

theorem guestsCome_invitesRight :
    InvitesRight (.ofRecorded []) (invitingHub 2)
      (inviteRun (.ofRecorded []) guestsCome (invitingHub 2)).history
      (inviteRun (.ofRecorded []) guestsCome (invitingHub 2)).state :=
  invitesRight_of_countsRight (.ofRecorded []) guestsCome (invitingHub 2) (by decide +kernel)
    (forall_split_iff.mpr (by decide +kernel))

/-- Two guests find that the invite may be used once more. -/
def guestsRace : List (Move InviteRequest) :=
  [.start (.validate 10 "c0ffee"), .start (.validate 10 "c0ffee"), .exec 0, .exec 1,
    .exec 0, .exec 1]

/-- Both get in. -/
theorem guestsRace_not_invitesRight :
    (invitingHub 1).db.InvitesLimited ∧
      (inviteRun (.ofRecorded []) guestsRace (invitingHub 1)).answer? 0 = some (.ok ()) ∧
      (inviteRun (.ofRecorded []) guestsRace (invitingHub 1)).answer? 1 = some (.ok ()) ∧
      ¬ InvitesRight (.ofRecorded []) (invitingHub 1)
        (inviteRun (.ofRecorded []) guestsRace (invitingHub 1)).history
        (inviteRun (.ofRecorded []) guestsRace (invitingHub 1)).state := by
  refine ⟨by decide +kernel, by decide +kernel, by decide +kernel, fun hright => ?_⟩
  have hexceeded : ¬ (inviteRun (.ofRecorded []) guestsRace
      (invitingHub 1)).state.db.InvitesLimited := by
    decide +kernel
  exact hexceeded hright.limited

end Voxply.Hub
