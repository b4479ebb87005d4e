/-
# The daily sweep for certifications

Once a day the hub certifies the members that meet its criteria and hold no certification that
is still good.  Whether a certification is still good is not read off its expiry: the sweep
goes by the day it was issued and by the validity that is set now, which may not be the
validity it was issued with.  And it looks at five hundred members at most, among them those
that are banned and get nothing.
-/

import Voxply.Hub.Portability
import Voxply.Math.Paging

namespace Voxply.Hub

open Voxply.Math

/-! ## The sweep -/

/-- `cert_auto_issue`. -/
def Db.certAutoIssue (db : Db) : Bool :=
  ((db.setting "cert_auto_issue").map (· == "true")).getD true

def Db.standingDays (db : Db) : Int :=
  db.settingI64 "cert_standing_days" 30

/-- `now - days * 86400`. -/
def daysBefore (now days : Int) : Int :=
  wrapI64 (now - wrapI64 (days * 86400))

/-- `MAX(issued_at)` of the certifications of a member that are good and not revoked. -/
def Db.latestIssued (db : Db) (subjectPubkey : String) : Option Int :=
  ((db.certIssuances.rows.filter fun cert => cert.standing = "good" ∧ cert.revokedAt = none ∧
    cert.subjectPubkey = subjectPubkey).map (·.issuedAt)).max?

/-- The `WHERE` of the candidates. -/
def Db.certCandidate (db : Db) (now : Int) (row : UserRow) : Bool :=
  row.approvalStatus = .approved ∧ row.isBot = false ∧
    row.firstSeenAt ≤ daysBefore now db.standingDays ∧
    ∀ latest ∈ db.latestIssued row.publicKey, latest < daysBefore now db.validityDays

/-- The order in which a query without `ORDER BY` comes across the rows of `users`. -/
structure Scan where
  order : List UserRow → List UserRow
  perm : ∀ rows, (order rows).Perm rows

/-- The candidates: `LIMIT 500`. -/
def Db.certCandidates (db : Db) (scan : Scan) (now : Int) : List String :=
  (((scan.order db.users.rows).filter (db.certCandidate now)).take 500).map (·.publicKey)

/-- What a sweep meets: the time, and for one issuance after the other the time and the fresh
identifier. -/
structure SweepEnv where
  now : Int
  issuedAt : ℕ → Int
  id : ℕ → String

/-- The body of the loop. An issuance that fails is logged. -/
def sweepCandidate (lib : Crates) (env : SweepEnv) (banned : List String)
    (candidate : String × ℕ) : Handler Unit :=
  if candidate.1 ∈ banned then pure ()
  else
    (do
      let _ ← issueCertFor lib (env.issuedAt candidate.2) (env.id candidate.2) candidate.1
      pure () : Handler Unit).recover fun _ => pure ()

/-- `tick` of the worker for certifications. -/
def certTick (lib : Crates) (scan : Scan) (env : SweepEnv) : Handler Unit := do
  let autoIssue ← fetch Db.certAutoIssue
  if autoIssue = false then pure ()
  else do
    let candidates ← fetch (·.certCandidates scan env.now)
    let banned ← fetch fun db => db.bans.rows.map (·.targetPublicKey)
    .each candidates.zipIdx (sweepCandidate lib env banned)

/-! ## What is to hold -/

/-- The member has been there for the days that are asked for. -/
def Db.standsLong (db : Db) (now : Int) (row : UserRow) : Prop :=
  row.firstSeenAt + db.standingDays * 86400 ≤ now

/-- The member holds a good certification that is not revoked and has not expired. -/
def Db.holdsCert (db : Db) (now : Int) (row : UserRow) : Prop :=
  ∃ cert ∈ db.certIssuances.rows, cert.subjectPubkey = row.publicKey ∧ cert.standing = "good" ∧
    cert.revokedAt = none ∧ now ≤ cert.expiresAt

instance (db : Db) (now : Int) (row : UserRow) : Decidable (db.standsLong now row) :=
  inferInstanceAs (Decidable (_ ≤ _))

instance (db : Db) (now : Int) (row : UserRow) : Decidable (db.holdsCert now row) :=
  inferInstanceAs (Decidable (∃ cert ∈ db.certIssuances.rows, _))

/-- The criteria of the worker. -/
structure Db.DueForCert (db : Db) (now : Int) (row : UserRow) : Prop where
  standsLong : db.standsLong now row
  approved : row.approvalStatus = .approved
  notBot : row.isBot = false
  notBanned : db.bans.has row.publicKey = false
  uncovered : ¬ db.holdsCert now row

instance (db : Db) (now : Int) : DecidablePred (db.DueForCert now) := fun row =>
  decidable_of_iff
    (db.standsLong now row ∧ row.approvalStatus = .approved ∧ row.isBot = false ∧
      db.bans.has row.publicKey = false ∧ ¬ db.holdsCert now row)
    ⟨fun ⟨hlong, happroved, hbot, hbanned, hcert⟩ => ⟨hlong, happroved, hbot, hbanned, hcert⟩,
      fun h => ⟨h.standsLong, h.approved, h.notBot, h.notBanned, h.uncovered⟩⟩

/-- How many members meet the criteria. -/
def Db.dueForCertCount (db : Db) (now : Int) : ℕ :=
  db.users.rows.countP fun row => decide (db.DueForCert now row)

/-- The certifications that were added to the ledger. -/
def newCerts (s t : AppState) : List CertIssuanceRow :=
  t.db.certIssuances.rows.drop s.db.certIssuances.rows.length

/-- A sweep adds to the ledger one certification for each member that meets the criteria, if
there are no more than five hundred, and none for anyone else. -/
structure SweepsRight (now : Int) (s t : AppState) : Prop where
  keeps : s.db.certIssuances.rows <+: t.db.certIssuances.rows
  each : s.db.dueForCertCount now ≤ 500 → ∀ row ∈ s.db.users.rows, s.db.DueForCert now row →
    ((newCerts s t).filter fun cert => cert.subjectPubkey = row.publicKey).length = 1
  only : ∀ cert ∈ newCerts s t, ∃ row ∈ s.db.users.rows, s.db.DueForCert now row ∧
    row.publicKey = cert.subjectPubkey

/-- The candidates that a scan comes across before a member. -/
def Db.candidatesBefore (db : Db) (scan : Scan) (now : Int) (row : UserRow) : ℕ :=
  ((scan.order db.users.rows).takeWhile (· ≠ row)).countP (db.certCandidate now)

/-- The sweep goes by the day of issue, the validity that is set now, and the first five hundred
candidates; that comes to the same thing.

`found`: whoever meets the criteria, of five hundred members at most, has been there since the
day that is worked out, was issued no good certification within the validity that is set now,
and has fewer than five hundred candidates before them.

`spared`: a candidate among the first five hundred who is not banned has been there for long
enough, and holds no certification that is still good. -/
structure Db.DaysAgree (db : Db) (scan : Scan) (now : Int) : Prop where
  found : db.dueForCertCount now ≤ 500 → ∀ row ∈ db.users.rows, db.DueForCert now row →
    row.firstSeenAt ≤ daysBefore now db.standingDays ∧
      (∀ latest ∈ db.latestIssued row.publicKey, latest < daysBefore now db.validityDays) ∧
      db.candidatesBefore scan now row < 500
  spared : ∀ row ∈ db.users.rows, db.certCandidate now row = true →
    db.bans.has row.publicKey = false → db.candidatesBefore scan now row < 500 →
      db.standsLong now row ∧ ¬ db.holdsCert now row

/-! ## What a sweep issues -/

/-- The identifiers that are drawn for new rows: no two are the same, and none is there yet. -/
structure NewCertIds (db : Db) where
  id : ℕ → String
  injective : Function.Injective id
  free : ∀ n, db.certIssuances.has (id n) = false

theorem length_filter_eq_one_iff {certs : List CertIssuanceRow}
    (hnodup : (certs.map (·.subjectPubkey)).Nodup) (key : String) :
    (certs.filter fun cert => cert.subjectPubkey = key).length = 1 ↔
      key ∈ certs.map (·.subjectPubkey) := by
  have hle : (certs.filter fun cert => cert.subjectPubkey = key).length ≤ 1 :=
    length_filter_le_one hnodup key
  have hpos : 0 < (certs.filter fun cert => cert.subjectPubkey = key).length ↔
      key ∈ certs.map (·.subjectPubkey) := by
    rw [List.length_pos_iff_exists_mem]
    simp
  rw [← hpos]
  omega

section Sweep

variable {lib : Crates} {scan : Scan} {env : SweepEnv} {banned : List String} {s : AppState}

/-- The sweep has come this far: all but the ledger is as it was, and the ledger has new rows. -/
structure Swept (s t : AppState) (issued : List CertIssuanceRow) : Prop where
  users : t.db.users = s.db.users
  bans : t.db.bans = s.db.bans
  rows : t.db.certIssuances.rows = s.db.certIssuances.rows ++ issued

theorem Swept.refl (s : AppState) : Swept s s [] :=
  ⟨rfl, rfl, (List.append_nil _).symm⟩

theorem Swept.trans {t u : AppState} {first rest : List CertIssuanceRow} (h : Swept s t first)
    (h' : Swept t u rest) : Swept s u (first ++ rest) where
  users := h'.users.trans h.users
  bans := h'.bans.trans h.bans
  rows := by rw [h'.rows, h.rows, List.append_assoc]

/-- A member who is approved and not banned gets a certification. -/
theorem run_sweepCandidate_issued (hwrites : ∀ payload, (lib.certPayloadJson payload).isSome = true)
    {row : UserRow} {n : ℕ} (hrow : row ∈ s.db.users.rows)
    (happroved : row.approvalStatus = .approved)
    (hbanned : s.db.bans.has row.publicKey = false) (hlisted : row.publicKey ∉ banned)
    (hfresh : s.db.certIssuances.has (env.id n) = false) :
    ∃ t issued, (sweepCandidate lib env banned (row.publicKey, n)).run s = (.ok (), t) ∧
      Swept s t [issued] ∧ issued.subjectPubkey = row.publicKey ∧ issued.id = env.id n := by
  obtain ⟨json, hjson⟩ := Option.isSome_iff_exists.mp
    (hwrites (s.certPayload lib (env.issuedAt n) row))
  obtain ⟨certIssuances, hrows, hrun⟩ :=
    run_issueCertFor_eq hrow happroved hbanned hjson hfresh
  have hswept : Swept s { s with db := { s.db with certIssuances := certIssuances } }
      [s.certIssuance lib (env.issuedAt n) row (env.id n) json] :=
    ⟨rfl, rfl, hrows⟩
  refine ⟨_, _, ?_, hswept, rfl, rfl⟩
  rw [sweepCandidate, if_neg hlisted]
  apply Prog.run_recover_of_ok
  rw [Prog.run_bind_of_ok hrun]
  rfl

/-- The loop issues one certification after the other to the candidates that are not banned. -/
theorem run_sweep (env : SweepEnv)
    (hwrites : ∀ payload, (lib.certPayloadJson payload).isSome = true)
    {candidates : List (String × ℕ)} (hnodup : (candidates.map Prod.snd).Nodup)
    (hinjective : Function.Injective env.id)
    (hfresh : ∀ candidate ∈ candidates, s.db.certIssuances.has (env.id candidate.2) = false)
    (happroved : ∀ candidate ∈ candidates,
      ∃ row ∈ s.db.users.rows, row.publicKey = candidate.1 ∧ row.approvalStatus = .approved)
    (hbanned : ∀ key, key ∈ banned ↔ s.db.bans.has key = true) :
    ∃ t issued, (Prog.each candidates (sweepCandidate lib env banned)).run s = (.ok ⟨⟩, t) ∧
      Swept s t issued ∧ issued.map (·.subjectPubkey) =
        (candidates.map Prod.fst).filter fun key => s.db.bans.has key = false := by
  induction candidates generalizing s with
  | nil => exact ⟨s, [], rfl, .refl s, rfl⟩
  | cons candidate rest ih =>
      obtain ⟨hout, hnodup⟩ := List.nodup_cons.mp hnodup
      obtain ⟨row, hrow, hkey, hstatus⟩ := happroved candidate List.mem_cons_self
      rw [List.map_cons]
      by_cases hban : s.db.bans.has candidate.1 = true
      · obtain ⟨t, issued, hrun, hswept, hsubjects⟩ := ih hnodup
          (fun other hother => hfresh other (List.mem_cons_of_mem _ hother))
          (fun other hother => happroved other (List.mem_cons_of_mem _ hother)) hbanned
        refine ⟨t, issued, ?_, hswept, ?_⟩
        · rw [Prog.run_each_cons, sweepCandidate, if_pos ((hbanned _).mpr hban)]
          exact hrun
        · rw [hsubjects, List.filter_cons_of_neg (by simp [hban])]
      · rw [Bool.not_eq_true] at hban
        have hlisted : candidate.1 ∉ banned := by
          rw [hbanned, hban]
          exact Bool.false_ne_true
        obtain ⟨u, cert, hfirst, hswept, hsubject, hid⟩ := run_sweepCandidate_issued
          (n := candidate.2) hwrites hrow hstatus (hkey ▸ hban) (hkey ▸ hlisted)
          (hfresh candidate List.mem_cons_self)
        have hstill : ∀ other ∈ rest, u.db.certIssuances.has (env.id other.2) = false := by
          intro other hother
          have hne : cert.id ≠ env.id other.2 := by
            rw [hid]
            intro hsame
            exact hout (List.mem_map.mpr ⟨other, hother, (hinjective hsame).symm⟩)
          rw [← Bool.not_eq_true, Table.has_of_append hswept.rows]
          push Not
          refine ⟨?_, hne⟩
          rw [hfresh other (List.mem_cons_of_mem _ hother)]
          exact Bool.false_ne_true
        obtain ⟨t, issued, hrun, hrest, hsubjects⟩ := ih hnodup hstill
          (fun other hother => by
            rw [hswept.users]
            exact happroved other (List.mem_cons_of_mem _ hother))
          (fun key => by rw [hswept.bans, hbanned])
        refine ⟨t, cert :: issued, ?_, hswept.trans hrest, ?_⟩
        · have hturn : (sweepCandidate lib env banned candidate).run s = (.ok (), u) := by
            rw [hkey] at hfirst
            exact hfirst
          rw [Prog.run_each_cons, Prog.run_bind_of_ok hturn]
          exact hrun
        · rw [List.map_cons, hsubject, hkey, hsubjects, hswept.bans,
            List.filter_cons_of_pos (by simp [hban])]

/-- A member is among the candidates exactly if fewer than five hundred candidates come first. -/
theorem mem_certCandidates_iff {now : Int} {row : UserRow} (hrow : row ∈ s.db.users.rows) :
    row.publicKey ∈ s.db.certCandidates scan now ↔
      s.db.certCandidate now row = true ∧ s.db.candidatesBefore scan now row < 500 := by
  have hscan := scan.perm s.db.users.rows
  have hnodup : (scan.order s.db.users.rows).Nodup :=
    hscan.nodup_iff.mpr (List.Nodup.of_map UserRow.publicKey s.db.users.nodup)
  have hmem : row.publicKey ∈ s.db.certCandidates scan now ↔
      row ∈ ((scan.order s.db.users.rows).filter (s.db.certCandidate now)).take 500 := by
    constructor
    · intro h
      obtain ⟨other, hother, hkey⟩ := List.mem_map.mp h
      have hin : other ∈ s.db.users.rows :=
        hscan.mem_iff.mp (List.mem_of_mem_filter (List.mem_of_mem_take hother))
      exact s.db.users.eq_of_key_eq hin hrow hkey ▸ hother
    · exact List.mem_map_of_mem
  rw [hmem, mem_take_filter_iff hnodup, hscan.mem_iff, and_iff_right hrow]
  rfl

theorem nodup_certCandidates (now : Int) : (s.db.certCandidates scan now).Nodup := by
  have hkeys : ((scan.order s.db.users.rows).map (·.publicKey)).Nodup :=
    ((scan.perm s.db.users.rows).map _).nodup_iff.mpr s.db.users.nodup
  have hpart : (((scan.order s.db.users.rows).filter (s.db.certCandidate now)).take 500).Sublist
      (scan.order s.db.users.rows) :=
    (List.take_sublist _ _).trans List.filter_sublist
  exact hkeys.sublist (hpart.map _)

/-- A sweep issues to the candidates that are not banned, in their order. -/
theorem run_certTick (lib : Crates) (scan : Scan) (env : SweepEnv)
    (hwrites : ∀ payload, (lib.certPayloadJson payload).isSome = true)
    (hauto : s.db.certAutoIssue = true) (hinjective : Function.Injective env.id)
    (hfree : ∀ n, s.db.certIssuances.has (env.id n) = false) :
    ∃ t, (certTick lib scan env).run s = (.ok (), t) ∧ Swept s t (newCerts s t) ∧
      (newCerts s t).map (·.subjectPubkey) =
        (s.db.certCandidates scan env.now).filter fun key => s.db.bans.has key = false := by
  have happroved : ∀ candidate ∈ (s.db.certCandidates scan env.now).zipIdx,
      ∃ row ∈ s.db.users.rows, row.publicKey = candidate.1 ∧ row.approvalStatus = .approved := by
    intro candidate hcandidate
    obtain ⟨row, hrow, hkey⟩ := List.mem_map.mp (List.fst_mem_of_mem_zipIdx hcandidate)
    obtain ⟨hin, hwhere⟩ := List.mem_filter.mp (List.mem_of_mem_take hrow)
    exact ⟨row, (scan.perm _).mem_iff.mp hin, hkey, (of_decide_eq_true hwhere).1⟩
  have hbanned : ∀ key,
      key ∈ s.db.bans.rows.map (·.targetPublicKey) ↔ s.db.bans.has key = true := by
    intro key
    rw [Table.has_iff, List.mem_map]
  have hturns : ((s.db.certCandidates scan env.now).zipIdx.map Prod.snd).Nodup := by
    rw [List.zipIdx_map_snd]
    exact List.nodup_range'
  obtain ⟨t, issued, hrun, hswept, hsubjects⟩ := run_sweep (s := s) env hwrites
    hturns hinjective (fun candidate _ => hfree candidate.2) happroved hbanned
  have hnew : newCerts s t = issued := by
    rw [newCerts, hswept.rows, List.drop_left]
  rw [List.zipIdx_map_fst] at hsubjects
  refine ⟨t, ?_, hnew ▸ hswept, hnew ▸ hsubjects⟩
  rw [certTick, Prog.run_bind_of_ok (run_fetch _ s), hauto, if_neg Bool.noConfusion,
    Prog.run_bind_of_ok (run_fetch _ s), Prog.run_bind_of_ok (run_fetch _ s)]
  exact hrun

/-- A sweep does what it is for exactly if going by days comes to the same thing. -/
theorem sweepsRight_iff {t : AppState} {now : Int} (hswept : Swept s t (newCerts s t))
    (hsubjects : (newCerts s t).map (·.subjectPubkey) =
      (s.db.certCandidates scan now).filter fun key => s.db.bans.has key = false) :
    SweepsRight now s t ↔ s.db.DaysAgree scan now := by
  have hnodup : ((newCerts s t).map (·.subjectPubkey)).Nodup := by
    rw [hsubjects]
    exact (nodup_certCandidates now).filter _
  have hissued : ∀ row ∈ s.db.users.rows,
      row.publicKey ∈ (newCerts s t).map (·.subjectPubkey) ↔
        (s.db.certCandidate now row = true ∧ s.db.candidatesBefore scan now row < 500) ∧
          s.db.bans.has row.publicKey = false := by
    intro row hrow
    rw [hsubjects, List.mem_filter, mem_certCandidates_iff hrow, decide_eq_true_iff]
  constructor
  · intro h
    constructor
    · intro hcount row hrow hdue
      have hone := h.each hcount row hrow hdue
      have hmem := (length_filter_eq_one_iff hnodup row.publicKey).mp hone
      obtain ⟨⟨hcandidate, hbefore⟩, -⟩ := (hissued row hrow).mp hmem
      obtain ⟨-, -, hstanding, hlatest⟩ := of_decide_eq_true hcandidate
      exact ⟨hstanding, hlatest, hbefore⟩
    · intro row hrow hcandidate hbanned hbefore
      obtain ⟨cert, hcert, hkey⟩ :=
        List.mem_map.mp ((hissued row hrow).mpr ⟨⟨hcandidate, hbefore⟩, hbanned⟩)
      obtain ⟨other, hother, hdue, hsame⟩ := h.only cert hcert
      obtain rfl := s.db.users.eq_of_key_eq hother hrow (hsame.trans hkey)
      exact ⟨hdue.standsLong, hdue.uncovered⟩
  · intro h
    constructor
    · exact hswept.rows ▸ List.prefix_append _ _
    · intro hcount row hrow hdue
      obtain ⟨hstanding, hlatest, hbefore⟩ := h.found hcount row hrow hdue
      have hcandidate : s.db.certCandidate now row = true :=
        decide_eq_true ⟨hdue.approved, hdue.notBot, hstanding, hlatest⟩
      exact (length_filter_eq_one_iff hnodup row.publicKey).mpr
        ((hissued row hrow).mpr ⟨⟨hcandidate, hbefore⟩, hdue.notBanned⟩)
    · intro cert hcert
      have hmem : cert.subjectPubkey ∈ (newCerts s t).map (·.subjectPubkey) :=
        List.mem_map_of_mem hcert
      have hlisted := hmem
      rw [hsubjects] at hlisted
      obtain ⟨row, hscanned, hkey⟩ := List.mem_map.mp (List.mem_of_mem_filter hlisted)
      have hrow : row ∈ s.db.users.rows :=
        (scan.perm _).mem_iff.mp (List.mem_of_mem_filter (List.mem_of_mem_take hscanned))
      obtain ⟨⟨hcandidate, hbefore⟩, hbanned⟩ := (hissued row hrow).mp (hkey ▸ hmem)
      obtain ⟨happroved, hbot, -, -⟩ := of_decide_eq_true hcandidate
      obtain ⟨hlong, hcovered⟩ := h.spared row hrow hcandidate hbanned hbefore
      exact ⟨row, hrow, ⟨hlong, happroved, hbot, hbanned, hcovered⟩, hkey⟩

end Sweep

/-- Whatever is in the store, a sweep with the issuance on comes to its end, and it issues what
it is for exactly if going by days comes to the same thing. -/
theorem certTick_iff (lib : Crates)
    (hwrites : ∀ payload, (lib.certPayloadJson payload).isSome = true) (s : AppState)
    (hauto : s.db.certAutoIssue = true) (scan : Scan) (now : Int) (issuedAt : ℕ → Int)
    (ids : NewCertIds s.db) :
    ∃ t, (certTick lib scan ⟨now, issuedAt, ids.id⟩).run s = (.ok (), t) ∧
      (SweepsRight now s t ↔ s.db.DaysAgree scan now) := by
  obtain ⟨t, hrun, hswept, hsubjects⟩ := run_certTick lib scan ⟨now, issuedAt, ids.id⟩ hwrites
    hauto ids.injective ids.free
  exact ⟨t, hrun, sweepsRight_iff hswept hsubjects⟩

/-! ## A hub that shortens the validity -/

/-- The rows of `users` as they are stored. -/
def rowOrder : Scan := ⟨id, fun _ => List.Perm.refl _⟩

/-- The identifiers drawn in a sweep. -/
def sweepId (n : ℕ) : String :=
  String.ofList (List.replicate n 'a')

theorem sweepId_injective : Function.Injective sweepId := by
  intro first second heq
  have hlength := congrArg (·.toList.length) heq
  simpa [sweepId] using hlength

/-- A hub with a member who was certified for ninety days; certifications are now valid for
some number of days. -/
def certifiedHub (validityDays : String) : AppState where
  db :=
    { users := .single { publicKey := "alice", firstSeenAt := 0, lastSeenAt := 0 }
      hubSettings := ⟨[⟨"cert_validity_days", validityDays⟩], List.nodup_singleton _⟩
      certIssuances := .single {
        id := "cert"
        subjectPubkey := "alice"
        powLevel := none
        memberSince := 0
        issuedAt := 0
        expiresAt := 7776000
        standing := "good"
        payloadJson := ""
        signature := "" } }

def certifiedHubIds (validityDays : String) : NewCertIds (certifiedHub validityDays).db where
  id := sweepId
  injective := sweepId_injective
  free n := by
    rw [Table.has_eq_false_iff]
    intro row hrow hid
    rw [List.mem_singleton.mp hrow] at hid
    have hmem : 'c' ∈ (sweepId n).toList := by
      rw [← hid]
      decide
    rw [sweepId, String.toList_ofList] at hmem
    exact absurd (List.eq_of_mem_replicate hmem) (by decide)

/-- A second member has never been certified. -/
def growingHub : AppState where
  db :=
    { (certifiedHub "90").db with
      users := ⟨[{ publicKey := "alice", firstSeenAt := 0, lastSeenAt := 0 },
        { publicKey := "bob", firstSeenAt := 0, lastSeenAt := 0 }], by decide⟩ }

def growingHubIds : NewCertIds growingHub.db :=
  ⟨sweepId, sweepId_injective, (certifiedHubIds "90").free⟩

theorem certTick_growingHub :
    ∃ t, (certTick certLib rowOrder ⟨3456000, fun _ => 3456000, sweepId⟩).run growingHub =
      (.ok (), t) ∧ (newCerts growingHub t).map (·.subjectPubkey) = ["bob"] ∧
        (SweepsRight 3456000 growingHub t ↔ growingHub.db.DaysAgree rowOrder 3456000) := by
  obtain ⟨t, hrun, hright⟩ := certTick_iff certLib (fun _ => rfl) growingHub (by decide +kernel)
    rowOrder 3456000 (fun _ => 3456000) growingHubIds
  have hnew : (newCerts growingHub ((certTick certLib rowOrder
      ⟨3456000, fun _ => 3456000, sweepId⟩).run growingHub).2).map (·.subjectPubkey) = ["bob"] := by
    decide +kernel
  have hafter : ((certTick certLib rowOrder
      ⟨3456000, fun _ => 3456000, sweepId⟩).run growingHub).2 = t := congrArg Prod.snd hrun
  rw [hafter] at hnew
  exact ⟨t, hrun, hnew, hright⟩

/-- With a validity of thirty days the member is certified again on the fortieth day. -/
theorem shortened_not_sweepsRight :
    ∃ t, (certTick certLib rowOrder ⟨3456000, fun _ => 3456000, sweepId⟩).run (certifiedHub "30") =
      (.ok (), t) ∧ ¬ SweepsRight 3456000 (certifiedHub "30") t := by
  obtain ⟨t, hrun, hswept, hsubjects⟩ := run_certTick (s := certifiedHub "30") certLib rowOrder
    ⟨3456000, fun _ => 3456000, sweepId⟩ (fun _ => rfl) (by decide +kernel) sweepId_injective
    (certifiedHubIds "30").free
  refine ⟨t, hrun, ?_⟩
  rw [sweepsRight_iff hswept hsubjects]
  intro h
  have hspared := h.spared { publicKey := "alice", firstSeenAt := 0, lastSeenAt := 0 }
    List.mem_cons_self (by decide +kernel) (by decide +kernel) (by decide +kernel)
  exact hspared.2 (by decide +kernel)

end Voxply.Hub
