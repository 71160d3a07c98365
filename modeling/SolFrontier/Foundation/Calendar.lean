import Mathlib.Data.List.FinRange

/-! # The calendar

Dates of the proleptic Gregorian calendar, days of the week, and local times. A
day is followed by the next one, across the ends of months and years, and every
number of days from the epoch, before it or after it, is that of a date.
-/

namespace Foundation

/-! ## Days of the week -/

inductive Weekday where
  | monday
  | tuesday
  | wednesday
  | thursday
  | friday
  | saturday
  | sunday
  deriving DecidableEq, Repr

namespace Weekday

def next : Weekday → Weekday
  | monday => tuesday
  | tuesday => wednesday
  | wednesday => thursday
  | thursday => friday
  | friday => saturday
  | saturday => sunday
  | sunday => monday

/-- Monday is 1 and Sunday 7. -/
def number : Weekday → Nat
  | monday => 1
  | tuesday => 2
  | wednesday => 3
  | thursday => 4
  | friday => 5
  | saturday => 6
  | sunday => 7

theorem number_next (day : Weekday) : day.next.number = day.number % 7 + 1 := by
  cases day <;> rfl

end Weekday

/-! ## Dates -/

def isLeap (year : Int) : Bool := year % 4 = 0 && (year % 100 ≠ 0 || year % 400 = 0)

/-- The days of a month, counted from January = 0. -/
def monthLength (leap : Bool) (month : Fin 12) : Nat :=
  match month with
  | 1 => if leap then 29 else 28
  | 3 | 5 | 8 | 10 => 30
  | _ => 31

theorem monthLength_pos : ∀ leap month, 0 < monthLength leap month := by decide

def yearLength (leap : Bool) : Nat := if leap then 366 else 365

/-- A date; month and day are counted from zero. -/
structure Date where
  year : Int
  month : Fin 12
  day : Fin (monthLength (isLeap year) month)

namespace Date

def newYear (year : Int) : Date := ⟨year, 0, ⟨0, monthLength_pos _ _⟩⟩

/-- The day after. -/
def next (date : Date) : Date :=
  if hday : date.day + 1 < monthLength (isLeap date.year) date.month then
    ⟨date.year, date.month, ⟨date.day + 1, hday⟩⟩
  else if hmonth : date.month.val + 1 < 12 then
    ⟨date.year, ⟨date.month.val + 1, hmonth⟩, ⟨0, monthLength_pos _ _⟩⟩
  else newYear (date.year + 1)

/-- The days of all years from the year 0 to a year. -/
def daysBeforeYear (year : Int) : Int :=
  365 * year + (year + 3) / 4 - (year + 99) / 100 + (year + 399) / 400

/-- The days of a year before a month. -/
def daysBeforeMonth (leap : Bool) (month : Fin 12) : Nat :=
  ((List.finRange 12).take month).foldl (fun days earlier => days + monthLength leap earlier) 0

/-- The days since 1 January 1970. -/
def dayNumber (date : Date) : Int :=
  daysBeforeYear date.year + daysBeforeMonth (isLeap date.year) date.month + date.day - 719528

def epoch : Date := newYear 1970

theorem dayNumber_epoch : epoch.dayNumber = 0 := by decide

theorem dayNumber_newYear (year : Int) :
    (newYear year).dayNumber = daysBeforeYear year - 719528 := by
  simp [dayNumber, newYear, daysBeforeMonth]

theorem daysBeforeYear_succ (year : Int) :
    daysBeforeYear (year + 1) = daysBeforeYear year + yearLength (isLeap year) := by
  unfold daysBeforeYear
  cases hleap : isLeap year with
  | true =>
      simp only [isLeap, Bool.and_eq_true, Bool.or_eq_true, decide_eq_true_eq] at hleap
      simp only [yearLength, if_true]
      omega
  | false =>
      simp only [isLeap, Bool.and_eq_false_iff, Bool.or_eq_false_iff,
        decide_eq_false_iff_not] at hleap
      simp only [yearLength, Bool.false_eq_true, if_false]
      omega

/-- Each month ends where the next one starts. -/
theorem daysBeforeMonth_succ : ∀ leap month, (hmonth : month.val + 1 < 12) →
    daysBeforeMonth leap ⟨month.val + 1, hmonth⟩ =
      daysBeforeMonth leap month + monthLength leap month := by
  decide

theorem daysBeforeMonth_last : ∀ leap, ∀ month : Fin 12, ¬ month.val + 1 < 12 →
    daysBeforeMonth leap month + monthLength leap month = yearLength leap := by
  decide

/-- Days follow each other without a gap, across months and years. -/
theorem dayNumber_next (date : Date) : date.next.dayNumber = date.dayNumber + 1 := by
  unfold next
  split
  next hday =>
    simp only [dayNumber]
    omega
  next hday =>
    have hlast := date.day.isLt
    split
    next hmonth =>
      simp only [dayNumber, daysBeforeMonth_succ]
      omega
    next hmonth =>
      have hyear := daysBeforeMonth_last (isLeap date.year) _ hmonth
      rw [dayNumber_newYear, daysBeforeYear_succ, dayNumber]
      omega

theorem dayNumber_iterate (date : Date) (count : Nat) :
    (next^[count] date).dayNumber = date.dayNumber + count := by
  induction count with
  | zero => simp
  | succ count ih =>
      rw [Function.iterate_succ_apply', dayNumber_next, ih]
      omega

/-- Every day has a date. -/
theorem exists_dayNumber (number : Int) : ∃ date : Date, date.dayNumber = number := by
  -- Count up from the start of a year that is early enough.
  let start := newYear (min 0 number)
  have hstart : start.dayNumber ≤ number := by
    rw [dayNumber_newYear]
    unfold daysBeforeYear
    omega
  refine ⟨next^[(number - start.dayNumber).toNat] start, ?_⟩
  rw [dayNumber_iterate]
  omega

/-- The day of the week: the epoch was a Thursday. -/
def weekday (date : Date) : Weekday :=
  match (date.dayNumber % 7).toNat with
  | 0 => .thursday
  | 1 => .friday
  | 2 => .saturday
  | 3 => .sunday
  | 4 => .monday
  | 5 => .tuesday
  | _ => .wednesday

theorem number_weekday (date : Date) :
    (date.weekday.number : Int) = (date.dayNumber + 3) % 7 + 1 := by
  have hcases : date.dayNumber % 7 = 0 ∨ date.dayNumber % 7 = 1 ∨ date.dayNumber % 7 = 2 ∨
      date.dayNumber % 7 = 3 ∨ date.dayNumber % 7 = 4 ∨ date.dayNumber % 7 = 5 ∨
      date.dayNumber % 7 = 6 := by omega
  have hsum : (date.dayNumber + 3) % 7 = (date.dayNumber % 7 + 3) % 7 := by omega
  rw [weekday, hsum]
  rcases hcases with hday | hday | hday | hday | hday | hday | hday <;> rw [hday] <;> rfl

/-- The days of the week follow each other as the dates do. -/
theorem weekday_next (date : Date) : date.next.weekday = date.weekday.next := by
  have hnumber : ∀ {left right : Weekday}, left.number = right.number → left = right := by
    intro left right heq
    cases left <;> cases right <;> first | rfl | cases heq
  apply hnumber
  have hnext := number_weekday date.next
  have hdate := number_weekday date
  rw [dayNumber_next] at hnext
  rw [Weekday.number_next]
  omega

end Date

/-! ## Local times -/

/-- A date and a time of the day. -/
structure LocalTime where
  date : Date
  hour : Fin 24
  minute : Fin 60
  second : Fin 60

namespace LocalTime

/-- The seconds since the start of the epoch's day. -/
def seconds (time : LocalTime) : Int :=
  86400 * time.date.dayNumber + 3600 * time.hour + 60 * time.minute + time.second

/-- Every second belongs to a date and a time of the day. -/
theorem exists_seconds (number : Int) : ∃ time : LocalTime, time.seconds = number := by
  obtain ⟨date, hdate⟩ := Date.exists_dayNumber (number / 86400)
  refine ⟨⟨date, ⟨(number % 86400 / 3600).toNat, by omega⟩,
    ⟨(number % 3600 / 60).toNat, by omega⟩, ⟨(number % 60).toNat, by omega⟩⟩, ?_⟩
  simp only [seconds]
  omega

theorem seconds_div_day (time : LocalTime) : time.seconds / 86400 = time.date.dayNumber := by
  have hhour := time.hour.isLt
  have hminute := time.minute.isLt
  have hsecond := time.second.isLt
  unfold seconds
  omega

theorem seconds_div_hour (time : LocalTime) : time.seconds / 3600 % 24 = time.hour := by
  have hhour := time.hour.isLt
  have hminute := time.minute.isLt
  have hsecond := time.second.isLt
  unfold seconds
  omega

end LocalTime

end Foundation
