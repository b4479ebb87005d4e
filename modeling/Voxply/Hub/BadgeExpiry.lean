/-
# When badges expire

A badge that is issued for a number of days carries the text of the second at which it expires,
and whether it has expired is decided by the order of texts.  That is the order of the times for
years of the same number of digits.  A year with more digits is compared by its leading digits,
so a badge for millions of years can be over at once.
-/

import Voxply.Hub.Badges
import Voxply.Hub.IsoTimestamps

namespace Voxply.Hub

open Voxply.Math

/-! ## Issuing -/

/-- What a badge is issued with, and the clock as it is read for the time of issue and for the
expiry. -/
structure BadgeIssue where
  ourPubkey : String
  ourUrl : String
  subjectPubkey : String
  label : String
  expiresDays : Option UInt32
  issuedClock : UInt64
  clock : UInt64

/-- The text of the expiry, unless the addition leaves the range of `u64`. -/
def expiryText (clock : UInt64) (days : UInt32) : Option String := do
  let duration ← U64.mul days.toNat 86400
  let expireSecs ← U64.add clock.toNat duration
  isoFromUnix (.ofNat expireSecs)

/-- The payload that `issue_badge` signs. -/
def BadgeIssue.payload? (issue : BadgeIssue) : Option BadgePayload := do
  let issuedAt ← unixTimestampIso issue.issuedClock
  let expiresAt ← match issue.expiresDays with
    | none => some none
    | some days => (expiryText issue.clock days).map some
  pure ⟨issue.ourPubkey, issue.ourUrl, issue.subjectPubkey, issue.label, issuedAt, expiresAt⟩

/-! ## What is to hold -/

/-- The second at which a badge expires. -/
def BadgeIssue.expiry? (issue : BadgeIssue) : Option ℕ :=
  issue.expiresDays.map fun days => issue.clock.toNat + days.toNat * 86400

/-- The expiry can be computed, and whichever hub has accepted the badge serves it exactly before
its expiry. -/
structure ExpiresRight (lib : Crates) (text : BadgeText) (issue : BadgeIssue) (now : UInt64) :
    Prop where
  computed : issue.payload?.isSome = true
  served : ∀ payload ∈ issue.payload?, ∀ nowIso ∈ unixTimestampIso now, ∀ db : Db,
    ∀ row ∈ db.hubBadges.rows, row.payload = text.toJson payload →
      (⟨payload, row.signature⟩ ∈ db.loadActiveBadges lib nowIso ↔
        ∀ expiry ∈ issue.expiry?, now.toNat < expiry)

/-- The years have the same number of digits, of which there are four at least, or the leading
digits of the longer one are not below the shorter one. -/
def YearsCompare (y z : ℕ) : Prop :=
  (Decimal.paddedWidth 4 y < Decimal.paddedWidth 4 z →
    y ≤ z / 10 ^ (Decimal.paddedWidth 4 z - Decimal.paddedWidth 4 y)) ∧
  (Decimal.paddedWidth 4 z < Decimal.paddedWidth 4 y →
    z ≤ y / 10 ^ (Decimal.paddedWidth 4 y - Decimal.paddedWidth 4 z))

/-- The year of a Unix time. -/
def unixYear (secs : ℕ) : ℕ := (epoch.after secs).date.year

/-! ## The order of the texts -/

section Order

variable {a b : Moment}

theorem lt_of_year_lt (h : a.date.year < b.date.year) : a < b := .inl (.inl h)

theorem not_lt_of_year_lt (h : b.date.year < a.date.year) : ¬ a < b := by
  have hlater := Moment.number_lt_iff.mpr (lt_of_year_lt h)
  rw [← Moment.number_lt_iff]
  exact lt_asymm hlater

/-- The texts are in the order of the clock exactly if the years are. -/
theorem iso_lt_agrees_iff (a b : Moment) :
    ((momentText a).iso < (momentText b).iso ↔ a < b) ↔ YearsCompare a.date.year b.date.year := by
  rw [YearsCompare]
  rcases lt_trichotomy (Decimal.paddedWidth 4 a.date.year) (Decimal.paddedWidth 4 b.date.year) with
    hshort | hsame | hlong
  · have hyear := Decimal.lt_of_paddedWidth_lt (by decide) hshort
    rw [String.lt_iff, toList_iso, toList_iso, iff_true_right (lt_of_year_lt hyear),
      imp_iff_right hshort]
    show Decimal.padded 4 a.date.year ++ _ < Decimal.padded 4 b.date.year ++ _ ↔ _
    rw [Decimal.padded_dash_lt_iff hshort]
    have hother := lt_asymm hshort
    tauto
  · rw [iso_lt_iff_of_width hsame, hsame]
    simp
  · have hyear := Decimal.lt_of_paddedWidth_lt (by decide) hlong
    rw [String.lt_iff, toList_iso, toList_iso, iff_false_right (not_lt_of_year_lt hyear),
      imp_iff_right hlong]
    show ¬ Decimal.padded 4 a.date.year ++ _ < Decimal.padded 4 b.date.year ++ _ ↔ _
    rw [Decimal.padded_lt_dash_iff hlong, not_lt]
    have hother := lt_asymm hlong
    tauto

end Order

/-! ## Serving -/

section Serving

variable {lib : Crates} {text : BadgeText} {issue : BadgeIssue} {now : UInt64}

theorem unixTimestampIso_eq (now : UInt64) :
    unixTimestampIso now = some (momentText (epoch.after now.toNat)).iso := isoFromUnix_eq now

/-- The clock of the system counts seconds in an `i64`, so there is room for the days. -/
theorem expiryText_eq {clock : UInt64} (hclock : clock.toNat < 2 ^ 63) (days : UInt32) :
    expiryText clock days =
      some (momentText (epoch.after (clock.toNat + days.toNat * 86400))).iso := by
  have hdays := days.toNat_lt
  have hsum : clock.toNat + days.toNat * 86400 < 2 ^ 64 := by omega
  rw [expiryText, U64.mul_of_lt (by omega), Option.bind_eq_bind, Option.bind_some,
    U64.add_of_lt hsum, Option.bind_some, isoFromUnix_eq, UInt64.toNat_ofNat_of_lt' hsum]

theorem payload?_eq (hclock : issue.clock.toNat < 2 ^ 63) :
    issue.payload? = some ⟨issue.ourPubkey, issue.ourUrl, issue.subjectPubkey, issue.label,
      (momentText (epoch.after issue.issuedClock.toNat)).iso,
      issue.expiry?.map fun expiry => (momentText (epoch.after expiry)).iso⟩ := by
  unfold BadgeIssue.payload? BadgeIssue.expiry?
  rw [unixTimestampIso_eq]
  cases issue.expiresDays with
  | none => rfl
  | some days =>
      dsimp only
      rw [expiryText_eq hclock]
      rfl

theorem mem_loadActiveBadges_iff {db : Db} {row : HubBadgeRow} {payload : BadgePayload}
    {nowIso : String} (hrow : row ∈ db.hubBadges.rows)
    (hread : lib.readBadgePayload row.payload = some payload) :
    ⟨payload, row.signature⟩ ∈ db.loadActiveBadges lib nowIso ↔
      ∀ expiry ∈ payload.expiresAt, nowIso < expiry := by
  have hexpired : (∀ expiry ∈ payload.expiresAt, nowIso < expiry) ↔
      ¬ ∃ expiry ∈ payload.expiresAt, expiry ≤ nowIso := by
    simp only [not_exists, not_and, String.not_le]
  rw [hexpired, Db.loadActiveBadges, List.mem_filterMap]
  constructor
  · rintro ⟨other, -, hother⟩
    rw [HubBadgeRow.envelope?] at hother
    cases hparse : lib.readBadgePayload other.payload with
    | none =>
        rw [hparse] at hother
        cases hother
    | some parsed =>
        rw [hparse] at hother
        dsimp only at hother
        split_ifs at hother with hover
        rw [Option.some.injEq, BadgeEnvelope.mk.injEq] at hother
        rwa [← hother.1]
  · intro hlive
    refine ⟨row, (List.perm_insertionSort _ _).mem_iff.mpr hrow, ?_⟩
    rw [HubBadgeRow.envelope?, hread]
    exact if_neg hlive

/-- A badge is served until its expiry exactly if the years compare. -/
theorem expiresRight_iff (hclock : issue.clock.toNat < 2 ^ 63)
    (hreads : ∀ payload ∈ issue.payload?,
      lib.readBadgePayload (text.toJson payload) = some payload) :
    ExpiresRight lib text issue now ↔
      ∀ expiry ∈ issue.expiry?, YearsCompare (unixYear now.toNat) (unixYear expiry) := by
  have hpayload := payload?_eq hclock
  generalize hissued : (⟨issue.ourPubkey, issue.ourUrl, issue.subjectPubkey, issue.label,
      (momentText (epoch.after issue.issuedClock.toNat)).iso,
      issue.expiry?.map fun expiry => (momentText (epoch.after expiry)).iso⟩ : BadgePayload) =
    payload at hpayload
  have hexpiry : payload.expiresAt =
      issue.expiry?.map fun expiry => (momentText (epoch.after expiry)).iso := by
    rw [← hissued]
  have hread := hreads payload hpayload
  -- What a row of the badge says, in terms of the clock.
  have hserved {db : Db} {row : HubBadgeRow} (hrow : row ∈ db.hubBadges.rows)
      (htext : row.payload = text.toJson payload) :
      (⟨payload, row.signature⟩ ∈
          db.loadActiveBadges lib (momentText (epoch.after now.toNat)).iso ↔
        ∀ expiry ∈ issue.expiry?, now.toNat < expiry) ↔
      ∀ expiry ∈ issue.expiry?, YearsCompare (unixYear now.toNat) (unixYear expiry) := by
    rw [mem_loadActiveBadges_iff hrow (htext ▸ hread), hexpiry]
    cases issue.expiry? with
    | none => simp
    | some expiry =>
        have hagrees := iso_lt_agrees_iff (epoch.after now.toNat) (epoch.after expiry)
        rw [Moment.after_lt_iff] at hagrees
        simpa [unixYear] using hagrees
  constructor
  · intro h
    let row : HubBadgeRow :=
      ⟨"", issue.ourPubkey, issue.ourUrl, issue.label, text.toJson payload, "", ""⟩
    let db : Db := { hubBadges := ⟨[row], List.nodup_singleton _⟩ }
    have hrow : row ∈ db.hubBadges.rows := List.mem_singleton_self row
    exact (hserved hrow rfl).mp
      (h.served payload hpayload _ (unixTimestampIso_eq now) db row hrow rfl)
  · intro h
    constructor
    · rw [hpayload]
      rfl
    · intro other hother nowIso hnow db row hrow htext
      rw [hpayload] at hother
      cases hother
      rw [unixTimestampIso_eq] at hnow
      cases hnow
      exact (hserved hrow htext).mpr h

end Serving

/-! ## A badge for a month and one for millions of years -/

/-- The text of a payload without characters to escape. -/
def badgeJson (payload : BadgePayload) : String :=
  "\x7b\"issuer_pubkey\":\"" ++ payload.issuerPubkey ++ "\",\"issuer_url\":\"" ++
    payload.issuerUrl ++
    "\",\"subject_pubkey\":\"" ++ payload.subjectPubkey ++ "\",\"label\":\"" ++ payload.label ++
    "\",\"issued_at\":\"" ++ payload.issuedAt ++ "\",\"expires_at\":" ++
    (payload.expiresAt.elim "null" fun expiry => "\"" ++ expiry ++ "\"") ++ "\x7d"

/-- The texts of one payload. -/
def textOf : BadgeText := ⟨badgeJson, fun _ => ""⟩

def libOf (payload : BadgePayload) : Crates :=
  { Crates.ofRecorded [] with
    readBadgePayload := fun text => if text = badgeJson payload then some payload else none }

theorem readBadgePayload_libOf (payload : BadgePayload) :
    (libOf payload).readBadgePayload (textOf.toJson payload) = some payload := by
  simp [libOf, textOf]

/-- A badge that is issued when the year 2026 begins. -/
def issuedFor (days : UInt32) : BadgeIssue :=
  ⟨peerHubKey, "https://b.example", homeHubKey, "Friend", some days, 1767225600, 1767225600⟩

def badgeUntil (expiry : String) : BadgePayload :=
  ⟨peerHubKey, "https://b.example", homeHubKey, "Friend", "2026-01-01T00:00:00Z", some expiry⟩

theorem unixYear_of_decompose {secs : UInt64} {d : DateTime} (h : decompose secs = some d) :
    unixYear secs.toNat = d.year := by
  rw [decompose_eq] at h
  cases h
  rfl

theorem yearsCompare_self (y : ℕ) : YearsCompare y y :=
  ⟨fun h => absurd h (lt_irrefl _), fun h => absurd h (lt_irrefl _)⟩

/-- The badge for thirty days is served as long as it should be. -/
theorem month_expiresRight :
    ExpiresRight (libOf (badgeUntil "2026-01-31T00:00:00Z")) textOf (issuedFor 30) 1767225601 := by
  have hissued : (issuedFor 30).payload? = some (badgeUntil "2026-01-31T00:00:00Z") := by
    decide +kernel
  have hnow : unixYear (1767225601 : UInt64).toNat = 2026 := by
    have hdecomposed : decompose 1767225601 = some ⟨2026, 1, 1, 0, 0, 1⟩ := by decide +kernel
    exact unixYear_of_decompose hdecomposed
  have hyear : unixYear (1769817600 : UInt64).toNat = 2026 := by
    have hdecomposed : decompose 1769817600 = some ⟨2026, 1, 31, 0, 0, 0⟩ := by decide +kernel
    exact unixYear_of_decompose hdecomposed
  have hexpiry : (issuedFor 30).expiry? = some (1769817600 : UInt64).toNat := by decide +kernel
  have hclock : (issuedFor 30).clock.toNat < 2 ^ 63 := by decide +kernel
  apply (expiresRight_iff hclock ?_).mpr
  · intro expiry hsecs
    rw [hexpiry, Option.mem_some_iff] at hsecs
    rw [← hsecs, hnow, hyear]
    exact yearsCompare_self 2026
  · intro payload hpayload
    rw [hissued, Option.mem_some_iff] at hpayload
    rw [← hpayload]
    exact readBadgePayload_libOf _

/-- The badge for the most days that can be asked for is not served a second later. -/
theorem millions_not_expiresRight :
    ¬ ExpiresRight (libOf (badgeUntil "11761247-01-20T00:00:00Z")) textOf (issuedFor 4294967295)
      1767225601 := by
  intro h
  have hserved := h.served (badgeUntil "11761247-01-20T00:00:00Z") (by decide +kernel)
    "2026-01-01T00:00:01Z" (by decide +kernel)
    { hubBadges := ⟨[⟨"badge", peerHubKey, "https://b.example", "Friend",
        badgeJson (badgeUntil "11761247-01-20T00:00:00Z"), "",
        "2026-01-01T00:00:00Z"⟩], by decide⟩ }
    _ (List.mem_singleton_self _) rfl
  have hlive : ∀ expiry ∈ (issuedFor 4294967295).expiry?, (1767225601 : UInt64).toNat < expiry := by
    decide +kernel
  have hmissing := hserved.mpr hlive
  revert hmissing
  decide +kernel

end Voxply.Hub
