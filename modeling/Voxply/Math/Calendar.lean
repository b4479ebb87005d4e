/-
# The Gregorian calendar

The calendar of four hundred years, carried back before its introduction: which years are leap
years, how long the months are, and which day comes after a day.  A moment is a second of a day,
and the clock goes from one second to the next.

Days and seconds are numbered from the beginning of year zero.  The number of the next one is
one more, earlier ones have smaller numbers, and so the moment that the clock shows after some
seconds is the only one with its number.
-/

import Mathlib.Logic.Function.Iterate
import Mathlib.Order.Monotone.Basic

namespace Voxply.Math

/-! ## Years and months -/

/-- Every fourth year is a leap year, but of the centuries only every fourth. -/
def IsLeap (year : ℕ) : Prop :=
  year % 4 = 0 ∧ (year % 100 ≠ 0 ∨ year % 400 = 0)

instance : DecidablePred IsLeap := fun year =>
  inferInstanceAs (Decidable (year % 4 = 0 ∧ (year % 100 ≠ 0 ∨ year % 400 = 0)))

def yearLength (year : ℕ) : ℕ :=
  if IsLeap year then 366 else 365

def monthLength (year month : ℕ) : ℕ :=
  if month = 2 then
    if IsLeap year then 29 else 28
  else if month = 4 ∨ month = 6 ∨ month = 9 ∨ month = 11 then 30
  else 31

theorem monthLength_pos (year month : ℕ) : 1 ≤ monthLength year month := by
  unfold monthLength
  split_ifs <;> decide

theorem monthLength_le (year month : ℕ) : monthLength year month ≤ 31 := by
  unfold monthLength
  split_ifs <;> decide

/-- A day of the calendar. -/
@[ext]
structure Date where
  year : ℕ
  month : ℕ
  day : ℕ
  month_pos : 1 ≤ month
  month_le : month ≤ 12
  day_pos : 1 ≤ day
  day_le : day ≤ monthLength year month
  deriving DecidableEq

namespace Date

/-- The day after. -/
def next (d : Date) : Date :=
  if hday : d.day < monthLength d.year d.month then
    ⟨d.year, d.month, d.day + 1, d.month_pos, d.month_le, Nat.le_add_left 1 _, hday⟩
  else if hmonth : d.month < 12 then
    ⟨d.year, d.month + 1, 1, Nat.le_add_left 1 _, hmonth, le_rfl, monthLength_pos _ _⟩
  else
    ⟨d.year + 1, 1, 1, le_rfl, by decide, le_rfl, monthLength_pos _ _⟩

/-- Earlier dates have an earlier year, or an earlier month of the same year, or an earlier day of
the same month. -/
instance : LT Date where
  lt d e := d.year < e.year ∨ d.year = e.year ∧
    (d.month < e.month ∨ d.month = e.month ∧ d.day < e.day)

theorem lt_iff {d e : Date} : d < e ↔ d.year < e.year ∨ d.year = e.year ∧
    (d.month < e.month ∨ d.month = e.month ∧ d.day < e.day) := Iff.rfl

end Date

/-! ## The number of a day -/

def daysBeforeYear : ℕ → ℕ
  | 0 => 0
  | year + 1 => daysBeforeYear year + yearLength year

/-- The days of the year before the month with an index. -/
def daysBeforeMonth (year : ℕ) : ℕ → ℕ
  | 0 => 0
  | index + 1 => daysBeforeMonth year index + monthLength year (index + 1)

theorem daysBeforeYear_eq (year : ℕ) :
    daysBeforeYear year = 365 * year + (year + 3) / 4 - (year + 99) / 100 + (year + 399) / 400 := by
  induction year with
  | zero => rfl
  | succ year ih =>
      rw [daysBeforeYear, ih, yearLength]
      by_cases h : IsLeap year
      · rw [if_pos h]
        unfold IsLeap at h
        omega
      · rw [if_neg h]
        unfold IsLeap at h
        omega

/-- The months make up the year. -/
theorem daysBeforeMonth_twelve (year : ℕ) : daysBeforeMonth year 12 = yearLength year := by
  show 0 + 31 + (if IsLeap year then 29 else 28) + 31 + 30 + 31 + 30 + 31 + 31 + 30 + 31 + 30 + 31 =
    if IsLeap year then 366 else 365
  split_ifs <;> rfl

theorem daysBeforeMonth_mono (year : ℕ) : Monotone (daysBeforeMonth year) :=
  monotone_nat_of_le_succ fun _ => Nat.le_add_right _ _

theorem daysBeforeYear_mono : Monotone daysBeforeYear :=
  monotone_nat_of_le_succ fun _ => Nat.le_add_right _ _

namespace Date

variable {d e : Date}

/-- The days before a day. -/
def number (d : Date) : ℕ :=
  daysBeforeYear d.year + daysBeforeMonth d.year (d.month - 1) + (d.day - 1)

theorem month_split (d : Date) :
    daysBeforeMonth d.year d.month =
      daysBeforeMonth d.year (d.month - 1) + monthLength d.year d.month := by
  obtain ⟨index, hindex⟩ : ∃ index, d.month = index + 1 :=
    ⟨d.month - 1, (Nat.sub_add_cancel d.month_pos).symm⟩
  rw [hindex, Nat.add_sub_cancel, daysBeforeMonth]

theorem number_next (d : Date) : d.next.number = d.number + 1 := by
  have hsplit := d.month_split
  have hpos := d.day_pos
  have hle := d.day_le
  unfold next
  split_ifs with hday hmonth
  · show daysBeforeYear d.year + daysBeforeMonth d.year (d.month - 1) + (d.day + 1 - 1) = _
    rw [number]
    omega
  · show daysBeforeYear d.year + daysBeforeMonth d.year (d.month + 1 - 1) + 0 = _
    rw [Nat.add_sub_cancel, number]
    omega
  · have htwelve : d.month = 12 := le_antisymm d.month_le (not_lt.mp hmonth)
    have hyear := daysBeforeMonth_twelve d.year
    show daysBeforeYear d.year + yearLength d.year + 0 + 0 = _
    rw [htwelve] at hsplit hday hle
    rw [number, htwelve]
    omega

/-- A day is before the end of its month. -/
theorem number_lt_month (d : Date) :
    d.number < daysBeforeYear d.year + daysBeforeMonth d.year d.month := by
  have hsplit := d.month_split
  have hpos := d.day_pos
  have hle := d.day_le
  rw [number]
  omega

/-- A day is before the end of its year. -/
theorem number_lt_year (d : Date) : d.number < daysBeforeYear (d.year + 1) := by
  have hmonth := d.number_lt_month
  have htwelve := daysBeforeMonth_mono d.year d.month_le
  rw [daysBeforeMonth_twelve] at htwelve
  rw [daysBeforeYear]
  omega

theorem number_lt_of_lt (h : d < e) : d.number < e.number := by
  rcases h with hyear | ⟨hyear, hmonth | ⟨hmonth, hday⟩⟩
  · have hstart : daysBeforeYear (d.year + 1) ≤ e.number :=
      (daysBeforeYear_mono hyear).trans ((Nat.le_add_right _ _).trans (Nat.le_add_right _ _))
    exact d.number_lt_year.trans_le hstart
  · have hstart : daysBeforeMonth e.year d.month ≤ daysBeforeMonth e.year (e.month - 1) :=
      daysBeforeMonth_mono e.year (Nat.le_sub_one_of_lt hmonth)
    have hend := d.number_lt_month
    rw [hyear] at hend
    rw [number] at hend ⊢
    rw [number]
    omega
  · have hpos := d.day_pos
    rw [number, number, hyear, hmonth]
    omega

theorem lt_or_eq_or_lt (d e : Date) : d < e ∨ d = e ∨ e < d := by
  rw [lt_iff, lt_iff, Date.ext_iff]
  omega

theorem number_lt_iff : d.number < e.number ↔ d < e := by
  refine ⟨?_, number_lt_of_lt⟩
  intro h
  rcases lt_or_eq_or_lt d e with hlt | rfl | hlt
  · exact hlt
  · exact absurd h (lt_irrefl _)
  · exact absurd (number_lt_of_lt hlt) (lt_asymm h)

/-- A day is known by its number. -/
theorem number_inj : d.number = e.number ↔ d = e := by
  refine ⟨?_, congrArg number⟩
  intro h
  rcases lt_or_eq_or_lt d e with hlt | heq | hlt
  · exact absurd (number_lt_of_lt hlt) (by omega)
  · exact heq
  · exact absurd (number_lt_of_lt hlt) (by omega)

end Date

/-! ## The clock -/

/-- A second of a day. -/
@[ext]
structure Moment where
  date : Date
  hour : ℕ
  minute : ℕ
  second : ℕ
  hour_lt : hour < 24
  minute_lt : minute < 60
  second_lt : second < 60
  deriving DecidableEq

namespace Moment

variable {a b : Moment}

/-- The next second. -/
def next (a : Moment) : Moment :=
  if hsecond : a.second + 1 < 60 then
    ⟨a.date, a.hour, a.minute, a.second + 1, a.hour_lt, a.minute_lt, hsecond⟩
  else if hminute : a.minute + 1 < 60 then
    ⟨a.date, a.hour, a.minute + 1, 0, a.hour_lt, hminute, by decide⟩
  else if hhour : a.hour + 1 < 24 then ⟨a.date, a.hour + 1, 0, 0, hhour, by decide, by decide⟩
  else ⟨a.date.next, 0, 0, 0, by decide, by decide, by decide⟩

/-- The seconds of the day before a second. -/
def timeOfDay (a : Moment) : ℕ :=
  a.hour * 3600 + a.minute * 60 + a.second

def number (a : Moment) : ℕ :=
  a.date.number * 86400 + a.timeOfDay

theorem timeOfDay_lt (a : Moment) : a.timeOfDay < 86400 := by
  have hhour := a.hour_lt
  have hminute := a.minute_lt
  have hsecond := a.second_lt
  rw [timeOfDay]
  omega

/-- The first second of the minute. -/
def startOfMinute (a : Moment) : Moment :=
  { a with second := 0, second_lt := by decide }

theorem number_mod_sixty (a : Moment) : a.number % 60 = a.second := by
  have hsecond := a.second_lt
  rw [number, timeOfDay]
  omega

theorem number_startOfMinute (a : Moment) : a.startOfMinute.number + a.second = a.number := by
  simp only [number, timeOfDay, startOfMinute]
  omega

theorem number_next (a : Moment) : a.next.number = a.number + 1 := by
  have hhour := a.hour_lt
  have hminute := a.minute_lt
  have hsecond := a.second_lt
  have hdate := a.date.number_next
  unfold next
  split_ifs <;> simp only [number, timeOfDay] <;> omega

/-- A second is known by its number. -/
theorem number_inj : a.number = b.number ↔ a = b := by
  refine ⟨?_, congrArg number⟩
  intro h
  have ha := a.timeOfDay_lt
  have hb := b.timeOfDay_lt
  have haHour := a.hour_lt
  have haMinute := a.minute_lt
  have haSecond := a.second_lt
  have hbHour := b.hour_lt
  have hbMinute := b.minute_lt
  have hbSecond := b.second_lt
  rw [number, number] at h
  have hdate : a.date.number = b.date.number := by omega
  have htime : a.timeOfDay = b.timeOfDay := by omega
  rw [timeOfDay, timeOfDay] at htime
  ext1
  · exact Date.number_inj.mp hdate
  · omega
  · omega
  · omega

/-- The order of the clock. -/
instance : LT Moment where
  lt a b := a.date < b.date ∨ a.date = b.date ∧ (a.hour < b.hour ∨ a.hour = b.hour ∧
    (a.minute < b.minute ∨ a.minute = b.minute ∧ a.second < b.second))

theorem lt_iff : a < b ↔ a.date < b.date ∨ a.date = b.date ∧ (a.hour < b.hour ∨ a.hour = b.hour ∧
    (a.minute < b.minute ∨ a.minute = b.minute ∧ a.second < b.second)) := Iff.rfl

theorem number_lt_iff : a.number < b.number ↔ a < b := by
  have ha := a.timeOfDay_lt
  have hb := b.timeOfDay_lt
  have haMinute := a.minute_lt
  have haSecond := a.second_lt
  have hbMinute := b.minute_lt
  have hbSecond := b.second_lt
  rw [lt_iff, ← Date.number_lt_iff, ← Date.number_inj, number, number]
  rw [timeOfDay] at ha hb ⊢
  rw [timeOfDay]
  omega

/-- The beginning of a year. -/
def newYear (year : ℕ) : Moment :=
  ⟨⟨year, 1, 1, le_rfl, by decide, le_rfl, monthLength_pos year 1⟩, 0, 0, 0, by decide, by decide,
    by decide⟩

theorem number_newYear (year : ℕ) : (newYear year).number = daysBeforeYear year * 86400 := by
  simp [number, newYear, Date.number, timeOfDay, daysBeforeMonth]

/-- What the clock shows after some seconds. -/
def after (a : Moment) (n : ℕ) : Moment := next^[n] a

theorem number_after (a : Moment) (n : ℕ) : (a.after n).number = a.number + n := by
  induction n with
  | zero => rw [after, Function.iterate_zero_apply, Nat.add_zero]
  | succ n ih =>
      rw [after] at ih
      rw [after, Function.iterate_succ_apply', number_next, ih, Nat.add_assoc]

/-- The moment after some seconds is the one with the right number. -/
theorem eq_after_iff {n : ℕ} : b = a.after n ↔ b.number = a.number + n := by
  rw [← number_inj, number_after]

theorem after_lt_iff {m n : ℕ} : a.after m < a.after n ↔ m < n := by
  rw [← number_lt_iff, number_after, number_after, Nat.add_lt_add_iff_left]

end Moment

end Voxply.Math
