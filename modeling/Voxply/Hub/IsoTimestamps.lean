/-
# Timestamps as text

The hub turns Unix time into a date with a chain of truncating divisions on `u64`, which is
written down three times.  The divisions find, one after the other, the century, the year of the
century, the month and the day, in years that begin in March.

Where an operation on `u64` would leave its range, the chain has no result.
-/

import Voxply.Math.Calendar
import Voxply.Math.Decimal
import Mathlib.Tactic.IntervalCases

namespace Voxply.Hub

open Voxply.Math

/-! ## The conversions -/

namespace U64

def add (a b : ℕ) : Option ℕ := if a + b < 2 ^ 64 then some (a + b) else none

def sub (a b : ℕ) : Option ℕ := if b ≤ a then some (a - b) else none

def mul (a b : ℕ) : Option ℕ := if a * b < 2 ^ 64 then some (a * b) else none

theorem add_of_lt {a b : ℕ} (h : a + b < 2 ^ 64) : add a b = some (a + b) := if_pos h

theorem sub_of_le {a b : ℕ} (h : b ≤ a) : sub a b = some (a - b) := if_pos h

theorem mul_of_lt {a b : ℕ} (h : a * b < 2 ^ 64) : mul a b = some (a * b) := if_pos h

end U64

structure DateTime where
  year : ℕ
  month : ℕ
  day : ℕ
  hour : ℕ
  minute : ℕ
  second : ℕ
  deriving DecidableEq

/-- The year, the month and the day with a number of days since the beginning of 1970. -/
def gregorian (days : ℕ) : Option (ℕ × ℕ × ℕ) := do
  let jdn ← U64.add days 2440588
  let l ← U64.add jdn 68569
  let n := (← U64.mul 4 l) / 146097
  let l ← U64.sub l ((← U64.add (← U64.mul 146097 n) 3) / 4)
  let yearI := (← U64.mul 4000 (← U64.add l 1)) / 1461001
  let l ← U64.add (← U64.sub l ((← U64.mul 1461 yearI) / 4)) 31
  let monthI := (← U64.mul 80 l) / 2447
  let day ← U64.sub l ((← U64.mul 2447 monthI) / 80)
  let l := monthI / 11
  let month ← U64.sub (← U64.add monthI 2) (← U64.mul 12 l)
  let year ← U64.add (← U64.add (← U64.mul 100 (← U64.sub n 49)) yearI) l
  pure (year, month, day)

def decompose (secs : UInt64) : Option DateTime := do
  let days := secs.toNat / 86400
  let timeOfDay := secs.toNat % 86400
  let (year, month, day) ← gregorian days
  pure ⟨year, month, day, timeOfDay / 3600, timeOfDay % 3600 / 60, timeOfDay % 60⟩

/-- `{:04}-{:02}-{:02}T{:02}:{:02}` -/
def DateTime.minutes (d : DateTime) : List Char :=
  Decimal.padded 4 d.year ++ '-' :: (Decimal.padded 2 d.month ++ '-' :: (Decimal.padded 2 d.day ++
    'T' :: (Decimal.padded 2 d.hour ++ ':' :: Decimal.padded 2 d.minute)))

/-- `YYYY-MM-DDTHH:MM:SSZ` -/
def DateTime.iso (d : DateTime) : String :=
  String.ofList (d.minutes ++ ':' :: (Decimal.padded 2 d.second ++ ['Z']))

/-- `YYYY-MM-DDTHH:MMZ` -/
def DateTime.isoMinute (d : DateTime) : String :=
  String.ofList (d.minutes ++ ['Z'])

/-- The text of the time that the clock of the system shows. -/
def unixTimestampIso (now : UInt64) : Option String :=
  (decompose now).map DateTime.iso

def isoFromUnix (secs : UInt64) : Option String :=
  (decompose secs).map DateTime.iso

/-- The text of the time of the clock, rounded down to the minute. -/
def currentNonce (now : UInt64) : Option String :=
  (decompose (now / 60 * 60)).map DateTime.isoMinute

/-! ## Years that begin in March -/

section March

/-- A day of the year that begins in March, which is the one before in January and February. -/
structure InMarchYear (d : Date) (year index day : ℕ) : Prop where
  number : d.number = 365 * year + year / 4 - year / 100 + year / 400 + day + 60
  day_le : day ≤ 365
  leap : day = 365 → IsLeap (year + 1)
  index_eq : 80 * (day + 31) / 2447 = index
  dayOfMonth : day + 31 = 2447 * index / 80 + d.day
  ends : d.month + 12 * (index / 11) = index + 2
  start : year + index / 11 = d.year

theorem monthLength_two (year : ℕ) : monthLength year 2 = if IsLeap year then 29 else 28 := rfl

theorem exists_inMarchYear (d : Date) (hyear : 1 ≤ d.year) :
    ∃ year month day, InMarchYear d year month day := by
  obtain ⟨year, month, day, hmonthPos, hmonthLe, hdayPos, hdayLe⟩ := d
  have hstart := daysBeforeYear_eq year
  have hfeb := monthLength_two year
  simp only at hyear
  -- February ends the year that begins in March of the year before.
  rcases Nat.lt_or_ge month 3 with hearly | hlate
  · refine ⟨year - 1, month + 10, 274 + 31 * month + day, ?_⟩
    have hdays : daysBeforeMonth year (month - 1) = 31 * (month - 1) := by
      interval_cases month <;> rfl
    have hfits : day ≤ 29 ∨ month = 1 ∧ day ≤ 31 := by
      interval_cases month
      · exact .inr ⟨rfl, hdayLe⟩
      · left
        split_ifs at hfeb <;> omega
    have hleap : day = 29 → month = 2 → IsLeap (year - 1 + 1) := by
      rintro rfl rfl
      rw [Nat.sub_add_cancel hyear]
      by_contra hnot
      rw [hfeb, if_neg hnot] at hdayLe
      exact absurd hdayLe (by decide)
    have hday : 80 * (274 + 31 * month + day + 31) / 2447 = month + 10 := by
      interval_cases month <;> omega
    constructor
    · show daysBeforeYear year + daysBeforeMonth year (month - 1) + (day - 1) = _
      omega
    · omega
    · exact fun h => hleap (by omega) (by omega)
    · exact hday
    · show _ = _ + day
      interval_cases month <;> omega
    · show month + _ = _
      omega
    · show _ = year
      omega
  · refine ⟨year, month - 2, 2447 * (month - 2) / 80 + day - 31, ?_⟩
    have hdays : daysBeforeMonth year (month - 1) =
        2447 * (month - 2) / 80 + monthLength year 2 + 1 := by
        interval_cases month <;> simp [daysBeforeMonth, monthLength] <;> omega
    have hday : 80 * (2447 * (month - 2) / 80 + day) / 2447 = month - 2 := by
        interval_cases month <;> simp [monthLength] at hdayLe <;> omega
    constructor
    · show daysBeforeYear year + daysBeforeMonth year (month - 1) + (day - 1) = _
      by_cases hleap : IsLeap year
      · rw [if_pos hleap] at hfeb
        unfold IsLeap at hleap
        omega
      · rw [if_neg hleap] at hfeb
        unfold IsLeap at hleap
        omega
    · omega
    · omega
    · omega
    · show _ = _ + day
      omega
    · show month + _ = _
      omega
    · show year + _ = year
      omega

/-- The divisions find the century, the year of the century, the month and the day. -/
theorem chain_eq {d : Date} {year index day l : ℕ} (h : InMarchYear d year index day)
    (hl : l = d.number + 1789629) :
    4 * l / 146097 = year / 100 + 49 ∧
      (146097 * (year / 100 + 49) + 3) / 4 + (365 * (year % 100) + year % 100 / 4 + day) = l ∧
      4000 * (365 * (year % 100) + year % 100 / 4 + day + 1) / 1461001 = year % 100 := by
  have hnumber := h.number
  have hle := h.day_le
  have hleap := h.leap
  unfold IsLeap at hleap
  have hstart : (146097 * (year / 100 + 49) + 3) / 4 +
      (365 * (year % 100) + year % 100 / 4 + day) = l := by
    omega
  -- A century has a day more when it ends with a leap year.
  have hcentury : 365 * (year % 100) + year % 100 / 4 + day ≤ 36523 ∨
      year / 100 % 4 = 3 ∧ 365 * (year % 100) + year % 100 / 4 + day ≤ 36524 := by
    rcases Nat.lt_or_ge day 365 with hshort | hlong
    · left
      omega
    · have := hleap (le_antisymm hle hlong)
      omega
  have hfourth : day = 365 → year % 4 = 3 := by
    intro hday
    have := hleap hday
    omega
  refine ⟨?_, hstart, ?_⟩
  · clear hnumber hleap hfourth
    omega
  · clear hnumber hleap hcentury hstart
    omega

/-- Every operation of the chain stays in its range, and the chain finds the date. -/
theorem gregorian_eq {d : Date} {days : ℕ} (hyear : 1 ≤ d.year) (hdays : days < 2 ^ 50)
    (hnumber : d.number = days + 719528) : gregorian days = some (d.year, d.month, d.day) := by
  obtain ⟨year, index, day, hmarch⟩ := exists_inMarchYear d hyear
  obtain ⟨hcentury, hsplit, hyearI⟩ := chain_eq hmarch
    (show days + 2440588 + 68569 = d.number + 1789629 by omega)
  have hday := hmarch.day_le
  have hdayOfMonth := hmarch.dayOfMonth
  have hends := hmarch.ends
  have hindex := hmarch.index_eq
  have hstart := hmarch.start
  generalize hofCentury : 365 * (year % 100) + year % 100 / 4 + day = ofCentury at hsplit hyearI
  generalize hl : days + 2440588 + 68569 = l at hcentury hsplit
  generalize hn : year / 100 + 49 = n at hcentury hsplit
  have hsmall : ofCentury ≤ 36525 := by omega
  have hlarge : n < 2 ^ 50 := by omega
  have hadd : U64.add days 2440588 = some (days + 2440588) := U64.add_of_lt (by omega)
  have hadd' : U64.add (days + 2440588) 68569 = some l := by
    rw [U64.add_of_lt (by omega), hl]
  have hmul : U64.mul 4 l = some (4 * l) := U64.mul_of_lt (by omega)
  have hbefore : U64.mul 146097 n = some (146097 * n) := U64.mul_of_lt (by omega)
  have hround : U64.add (146097 * n) 3 = some (146097 * n + 3) := U64.add_of_lt (by omega)
  have hrest : U64.sub l ((146097 * n + 3) / 4) = some ofCentury := by
    rw [U64.sub_of_le (by omega), ← hsplit, Nat.add_sub_cancel_left]
  have hnext : U64.add ofCentury 1 = some (ofCentury + 1) := U64.add_of_lt (by omega)
  have hscaled : U64.mul 4000 (ofCentury + 1) = some (4000 * (ofCentury + 1)) :=
    U64.mul_of_lt (by omega)
  have hyears : U64.mul 1461 (year % 100) = some (1461 * (year % 100)) := U64.mul_of_lt (by omega)
  have hrest' : U64.sub ofCentury (1461 * (year % 100) / 4) = some day := by
    rw [U64.sub_of_le (by omega)]
    exact congrArg some (by omega)
  have hshift : U64.add day 31 = some (day + 31) := U64.add_of_lt (by omega)
  have hmonths : U64.mul 80 (day + 31) = some (80 * (day + 31)) := U64.mul_of_lt (by omega)
  have hdays' : U64.mul 2447 index = some (2447 * index) := U64.mul_of_lt (by omega)
  have hrest'' : U64.sub (day + 31) (2447 * index / 80) = some d.day := by
    rw [U64.sub_of_le (by omega), hdayOfMonth, Nat.add_sub_cancel_left]
  have hlate : U64.add index 2 = some (index + 2) := U64.add_of_lt (by omega)
  have hwrap : U64.mul 12 (index / 11) = some (12 * (index / 11)) := U64.mul_of_lt (by omega)
  have hmonth : U64.sub (index + 2) (12 * (index / 11)) = some d.month := by
    rw [U64.sub_of_le (by omega), ← hends, Nat.add_sub_cancel]
  have hcenturies : U64.sub n 49 = some (year / 100) := by
    rw [U64.sub_of_le (by omega), ← hn, Nat.add_sub_cancel]
  have hhundreds : U64.mul 100 (year / 100) = some (100 * (year / 100)) := U64.mul_of_lt (by omega)
  have hsum : U64.add (100 * (year / 100)) (year % 100) = some year := by
    rw [U64.add_of_lt (by omega), Nat.div_add_mod]
  have hsum' : U64.add year (index / 11) = some d.year := by
    rw [U64.add_of_lt (by omega), hstart]
  unfold gregorian
  refine Option.bind_eq_some_iff.mpr ⟨_, hadd, Option.bind_eq_some_iff.mpr ⟨_, hadd', ?_⟩⟩
  refine Option.bind_eq_some_iff.mpr ⟨_, hmul, ?_⟩
  rw [hcentury]
  refine Option.bind_eq_some_iff.mpr ⟨_, hbefore, Option.bind_eq_some_iff.mpr ⟨_, hround, ?_⟩⟩
  refine Option.bind_eq_some_iff.mpr ⟨_, hrest, Option.bind_eq_some_iff.mpr ⟨_, hnext, ?_⟩⟩
  refine Option.bind_eq_some_iff.mpr ⟨_, hscaled, ?_⟩
  rw [hyearI]
  refine Option.bind_eq_some_iff.mpr ⟨_, hyears, Option.bind_eq_some_iff.mpr ⟨_, hrest', ?_⟩⟩
  refine Option.bind_eq_some_iff.mpr ⟨_, hshift, Option.bind_eq_some_iff.mpr ⟨_, hmonths, ?_⟩⟩
  rw [hindex]
  refine Option.bind_eq_some_iff.mpr ⟨_, hdays', Option.bind_eq_some_iff.mpr ⟨_, hrest'', ?_⟩⟩
  refine Option.bind_eq_some_iff.mpr ⟨_, hlate, Option.bind_eq_some_iff.mpr ⟨_, hwrap, ?_⟩⟩
  refine Option.bind_eq_some_iff.mpr ⟨_, hmonth, Option.bind_eq_some_iff.mpr ⟨_, hcenturies, ?_⟩⟩
  refine Option.bind_eq_some_iff.mpr ⟨_, hhundreds, Option.bind_eq_some_iff.mpr ⟨_, hsum, ?_⟩⟩
  exact Option.bind_eq_some_iff.mpr ⟨_, hsum', rfl⟩

end March

/-! ## The time -/

section Time

def epoch : Moment := .newYear 1970

theorem number_epoch : epoch.number = 719528 * 86400 := by
  have hyear : daysBeforeYear 1970 = 719528 := daysBeforeYear_eq 1970
  rw [epoch, Moment.number_newYear, hyear]

def momentText (a : Moment) : DateTime :=
  ⟨a.date.year, a.date.month, a.date.day, a.hour, a.minute, a.second⟩

/-- The decomposition is what the clock shows after so many seconds, and every operation on the
way stays in its range. -/
theorem decompose_eq (secs : UInt64) :
    decompose secs = some (momentText (epoch.after secs.toNat)) := by
  have hsecs := secs.toNat_lt
  have hnumber := Moment.number_after epoch secs.toNat
  have htime := (epoch.after secs.toNat).timeOfDay_lt
  have hminute := (epoch.after secs.toNat).minute_lt
  have hsecond := (epoch.after secs.toNat).second_lt
  generalize epoch.after secs.toNat = a at *
  rw [number_epoch, Moment.number] at hnumber
  have hdate : a.date.number = secs.toNat / 86400 + 719528 := by omega
  have htimeOfDay : secs.toNat % 86400 = a.timeOfDay := by omega
  have hyear : 1 ≤ a.date.year := by
    by_contra hzero
    have hbound := a.date.number_lt_year
    rw [show a.date.year = 0 by omega] at hbound
    have hfirst : daysBeforeYear (0 + 1) = 366 := rfl
    omega
  have hdays : secs.toNat / 86400 < 2 ^ 50 := by omega
  unfold decompose
  refine Option.bind_eq_some_iff.mpr ⟨_, gregorian_eq hyear hdays hdate, ?_⟩
  rw [htimeOfDay]
  rw [Moment.timeOfDay]
  have hhour : (a.hour * 3600 + a.minute * 60 + a.second) / 3600 = a.hour := by omega
  have hminute' : (a.hour * 3600 + a.minute * 60 + a.second) % 3600 / 60 = a.minute := by omega
  have hsecond' : (a.hour * 3600 + a.minute * 60 + a.second) % 60 = a.second := by omega
  rw [hhour, hminute', hsecond']
  rfl

/-! ## The order of the texts -/

theorem day_lt (d : Date) : d.day < 100 := by
  have hle := d.day_le
  have hmonth := monthLength_le d.year d.month
  omega

theorem month_lt (d : Date) : d.month < 100 := by
  have hle := d.month_le
  omega

/-- What the text holds after the year. -/
def DateTime.sinceYear (d : DateTime) : List Char :=
  Decimal.padded 2 d.month ++ '-' :: (Decimal.padded 2 d.day ++ 'T' :: (Decimal.padded 2 d.hour ++
    ':' :: (Decimal.padded 2 d.minute ++ ':' :: (Decimal.padded 2 d.second ++ ['Z']))))

theorem toList_iso (d : DateTime) :
    d.iso.toList = Decimal.padded 4 d.year ++ '-' :: d.sinceYear := by
  rw [DateTime.iso, String.toList_ofList, DateTime.minutes, DateTime.sinceYear]
  simp only [List.append_assoc, List.cons_append]

theorem sinceYear_lt_iff (a b : Moment) :
    (momentText a).sinceYear < (momentText b).sinceYear ↔
      a.date.month < b.date.month ∨ a.date.month = b.date.month ∧
        (a.date.day < b.date.day ∨ a.date.day = b.date.day ∧ (a.hour < b.hour ∨ a.hour = b.hour ∧
          (a.minute < b.minute ∨ a.minute = b.minute ∧ a.second < b.second))) := by
  have haHour := a.hour_lt
  have haMinute := a.minute_lt
  have haSecond := a.second_lt
  have hbHour := b.hour_lt
  have hbMinute := b.minute_lt
  have hbSecond := b.second_lt
  simp only [DateTime.sinceYear, momentText]
  rw [Decimal.padded_append_lt_iff (by decide) (month_lt a.date) (month_lt b.date),
    Decimal.padded_append_lt_iff (by decide) (day_lt a.date) (day_lt b.date),
    Decimal.padded_append_lt_iff (by decide) (by omega) (by omega),
    Decimal.padded_append_lt_iff (by decide) (by omega) (by omega),
    Decimal.padded_append_lt_iff (by decide) (by omega) (by omega)]
  have hirrefl : ¬ (([] : List Char) < []) := List.lt_irrefl []
  tauto

/-- Texts with years of the same width are in the order of the clock. -/
theorem iso_lt_iff_of_width {a b : Moment}
    (hwidth : Decimal.paddedWidth 4 a.date.year = Decimal.paddedWidth 4 b.date.year) :
    (momentText a).iso < (momentText b).iso ↔ a < b := by
  rw [String.lt_iff, toList_iso, toList_iso]
  show Decimal.padded 4 a.date.year ++ _ < Decimal.padded 4 b.date.year ++ _ ↔ _
  rw [Decimal.padded_append_lt_iff_of_width hwidth, sinceYear_lt_iff, Moment.lt_iff, Date.lt_iff,
    Date.ext_iff]
  tauto

theorem iso_lt_iff {a b : Moment} (ha : a.date.year < 10000) (hb : b.date.year < 10000) :
    (momentText a).iso < (momentText b).iso ↔ a < b := by
  apply iso_lt_iff_of_width
  rw [Decimal.paddedWidth_eq_of_lt (by decide) ha, Decimal.paddedWidth_eq_of_lt (by decide) hb]

/-- The text without the seconds. -/
theorem isoMinute_lt_iff {a b : Moment} (ha : a.date.year < 10000) (hb : b.date.year < 10000)
    (haSecond : a.second = 0) (hbSecond : b.second = 0) :
    (momentText a).isoMinute < (momentText b).isoMinute ↔ a < b := by
  have haHour := a.hour_lt
  have haMinute := a.minute_lt
  have hbHour := b.hour_lt
  have hbMinute := b.minute_lt
  rw [String.lt_iff, DateTime.isoMinute, DateTime.isoMinute, String.toList_ofList,
    String.toList_ofList, DateTime.minutes, DateTime.minutes]
  simp only [momentText, List.append_assoc, List.cons_append]
  rw [Decimal.padded_append_lt_iff (by decide) ha hb,
    Decimal.padded_append_lt_iff (by decide) (month_lt a.date) (month_lt b.date),
    Decimal.padded_append_lt_iff (by decide) (day_lt a.date) (day_lt b.date),
    Decimal.padded_append_lt_iff (by decide) (by omega) (by omega),
    Decimal.padded_append_lt_iff (by decide) (by omega) (by omega)]
  rw [Moment.lt_iff, Date.lt_iff, Date.ext_iff, haSecond, hbSecond]
  have hirrefl : ¬ (([] : List Char) < []) := List.lt_irrefl []
  have hzero : ¬ 0 < 0 := lt_irrefl 0
  tauto

/-- The clock at the beginning of the minute. -/
theorem after_minute (n : ℕ) : epoch.after (n / 60 * 60) = (epoch.after n).startOfMinute := by
  have hnumber := Moment.number_after epoch n
  have hminute := Moment.number_startOfMinute (epoch.after n)
  have hsecond := Moment.number_mod_sixty (epoch.after n)
  have hepoch := number_epoch
  symm
  apply Moment.eq_after_iff.mpr
  omega

/-- The three conversions agree with the calendar and the clock at every time, without leaving the
range of `u64`, and up to year 9999 the order of the texts is that of the times. -/
structure TextsRight : Prop where
  decomposed : ∀ secs, decompose secs = some (momentText (epoch.after secs.toNat))
  timestamp : ∀ now, unixTimestampIso now = some (momentText (epoch.after now.toNat)).iso
  fromUnix : ∀ secs, isoFromUnix secs = some (momentText (epoch.after secs.toNat)).iso
  nonce : ∀ now, currentNonce now = some (momentText (epoch.after now.toNat)).isoMinute
  ordered : ∀ s t : UInt64, (epoch.after s.toNat).date.year < 10000 →
    (epoch.after t.toNat).date.year < 10000 → ∀ first ∈ isoFromUnix s, ∀ second ∈ isoFromUnix t,
      (first < second ↔ s < t)
  orderedMinutes : ∀ s t : UInt64, (epoch.after s.toNat).date.year < 10000 →
    (epoch.after t.toNat).date.year < 10000 → ∀ first ∈ currentNonce s, ∀ second ∈ currentNonce t,
      (first < second ↔ s / 60 < t / 60)

theorem isoFromUnix_eq (secs : UInt64) :
    isoFromUnix secs = some (momentText (epoch.after secs.toNat)).iso := by
  rw [isoFromUnix, decompose_eq, Option.map_some]

theorem toNat_minute (now : UInt64) : (now / 60 * 60).toNat = now.toNat / 60 * 60 := by
  have hlt := now.toNat_lt
  rw [UInt64.toNat_mul, UInt64.toNat_div]
  show now.toNat / 60 * 60 % 2 ^ 64 = _
  omega

theorem currentNonce_eq (now : UInt64) :
    currentNonce now = some (momentText (epoch.after (now.toNat / 60 * 60))).isoMinute := by
  rw [currentNonce, decompose_eq, Option.map_some, toNat_minute]

theorem textsRight : TextsRight := by
  constructor
  · exact decompose_eq
  · exact isoFromUnix_eq
  · exact isoFromUnix_eq
  · intro now
    rw [currentNonce_eq, after_minute]
    rfl
  · intro s t hs ht first hfirst second hsecond
    rw [isoFromUnix_eq] at hfirst hsecond
    cases hfirst
    cases hsecond
    rw [iso_lt_iff hs ht, Moment.after_lt_iff]
    exact UInt64.lt_iff_toNat_lt.symm
  · intro s t hs ht first hfirst second hsecond
    rw [currentNonce_eq] at hfirst hsecond
    cases hfirst
    cases hsecond
    have hminute (n : ℕ) : (epoch.after (n / 60 * 60)).date = (epoch.after n).date ∧
        (epoch.after (n / 60 * 60)).second = 0 := by
      rw [after_minute]
      exact ⟨rfl, rfl⟩
    rw [isoMinute_lt_iff (by rwa [(hminute s.toNat).1]) (by rwa [(hminute t.toNat).1])
      (hminute s.toNat).2 (hminute t.toNat).2, Moment.after_lt_iff, UInt64.lt_iff_toNat_lt,
      UInt64.toNat_div, UInt64.toNat_div]
    show s.toNat / 60 * 60 < t.toNat / 60 * 60 ↔ s.toNat / 60 < t.toNat / 60
    omega

end Time

end Voxply.Hub
