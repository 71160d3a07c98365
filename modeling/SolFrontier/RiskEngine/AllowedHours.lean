import SolFrontier.Foundation.Calendar
import SolFrontier.RiskEngine.Policy

/-! # The allowed-hours window

The condition reads hour and day off the shifted seconds. For the calendar's own
dates and times it says what it is meant to say, as long as the offset can be
multiplied in 32 bits.
-/

namespace SolFrontier.RiskEngine

open Foundation Types

/-- The shift of the local clock in seconds; an offset of a day or more is none. -/
def shiftOf (utcOffsetHours : Int32) : Int :=
  if -24 < utcOffsetHours.toInt ∧ utcOffsetHours.toInt < 24 then utcOffsetHours.toInt * 3600 else 0

/-- The hour is in the inclusive window, past midnight if it starts after its end. -/
def InHours (startHour endHour : UInt8) (hour : Nat) : Prop :=
  if startHour ≤ endHour then startHour.toNat ≤ hour ∧ hour ≤ endHour.toNat
  else startHour.toNat ≤ hour ∨ hour ≤ endHour.toNat

/-- The weekday is not one of the allowed ones, or the hour is not in the window. -/
def OutsideWindow (startHour endHour : UInt8) (allowedDays : List UInt8) (time : LocalTime) :
    Prop :=
  (allowedDays ≠ [] ∧ ∀ day ∈ allowedDays, day.toNat ≠ time.date.weekday.number) ∨
    ¬ InHours startHour endHour time.hour

section Window

variable {startHour endHour : UInt8} {allowedDays : List UInt8} {utcOffsetHours : Int32}
  {now : Int} {time : LocalTime}

theorem toNat_hourOf (time : LocalTime) : (hourOf time.seconds).toNat = time.hour := by
  have hhour := time.hour.isLt
  rw [hourOf, time.seconds_div_hour, Int.toNat_natCast]
  exact UInt8.toNat_ofNat_of_lt' (show time.hour.val < 256 by omega)

theorem toNat_dayOfWeek (time : LocalTime) :
    (dayOfWeek time.seconds).toNat = time.date.weekday.number := by
  have hnumber := time.date.number_weekday
  rw [dayOfWeek, time.seconds_div_day, ← hnumber, Int.toNat_natCast]
  exact UInt8.toNat_ofNat_of_lt' (show time.date.weekday.number < 256 by omega)

theorem contains_dayOfWeek (time : LocalTime) :
    allowedDays.contains (dayOfWeek time.seconds) = false ↔
      ∀ day ∈ allowedDays, day.toNat ≠ time.date.weekday.number := by
  rw [← toNat_dayOfWeek, List.contains_eq_mem, decide_eq_false_iff_not]
  constructor
  · intro hmissing day hday heq
    exact hmissing (UInt8.toNat_inj.mp heq ▸ hday)
  · intro hother hmem
    exact hother _ hmem rfl

/-- The offset that is used, when the multiplication does not wrap. -/
theorem fixedOffset_eq (hfits : (utcOffsetHours * 3600).toInt = utcOffsetHours.toInt * 3600) :
    fixedOffset utcOffsetHours = shiftOf utcOffsetHours := by
  rw [fixedOffset, hfits, shiftOf]
  by_cases hday : -24 < utcOffsetHours.toInt ∧ utcOffsetHours.toInt < 24
  · rw [if_pos hday, if_pos (by omega)]
  · rw [if_neg hday, if_neg (by omega)]

theorem isOutsideAllowedHoursAt_iff
    (hfits : (utcOffsetHours * 3600).toInt = utcOffsetHours.toInt * 3600)
    (htime : time.seconds = now + shiftOf utcOffsetHours) :
    isOutsideAllowedHoursAt now startHour endHour allowedDays utcOffsetHours = true ↔
      OutsideWindow startHour endHour allowedDays time := by
  have hin : InHours startHour endHour time.hour ↔
      (if startHour ≤ endHour then startHour ≤ hourOf time.seconds && hourOf time.seconds ≤ endHour
        else startHour ≤ hourOf time.seconds || hourOf time.seconds ≤ endHour) = true := by
    rw [← toNat_hourOf]
    unfold InHours
    split <;> simp [UInt8.le_iff_toNat_le]
  rw [isOutsideAllowedHoursAt, fixedOffset_eq hfits, ← htime, OutsideWindow,
    ← contains_dayOfWeek, hin]
  dsimp only
  -- What is left is the source's case distinction on an empty list of days.
  generalize (if startHour ≤ endHour then
    decide (startHour ≤ hourOf time.seconds) && decide (hourOf time.seconds ≤ endHour)
    else decide (startHour ≤ hourOf time.seconds) || decide (hourOf time.seconds ≤ endHour)) =
    inAllowedHours
  cases allowedDays with
  | nil => simp
  | cons day rest =>
      cases hcontains : (day :: rest).contains (dayOfWeek time.seconds) <;> simp

/-- The multiplication stays in 32 bits for these offsets and no others. -/
theorem offset_fits_iff : (utcOffsetHours * 3600).toInt = utcOffsetHours.toInt * 3600 ↔
    -596523 ≤ utcOffsetHours.toInt ∧ utcOffsetHours.toInt ≤ 596523 := by
  have hlow := (utcOffsetHours * 3600).le_toInt
  have hhigh := (utcOffsetHours * 3600).toInt_lt
  constructor
  · intro hfits
    omega
  · rintro ⟨hmin, hmax⟩
    have hfactor : (3600 : Int32).toInt = 3600 := rfl
    rw [Int32.toInt_mul, hfactor, Int.bmod_eq_of_le (by omega) (by omega)]

/-- Evaluating the condition neither panics nor wraps, and it matches exactly when
the local time is outside the window. -/
structure CalendarExact (now : Int) (startHour endHour : UInt8) (allowedDays : List UInt8)
    (utcOffsetHours : Int32) : Prop where
  fits : (utcOffsetHours * 3600).toInt = utcOffsetHours.toInt * 3600
  exact : ∃ time : LocalTime, time.seconds = now + shiftOf utcOffsetHours ∧
    ∀ (policy : PolicySet) (rule : PolicyRule) (context : PolicyEvaluationContext),
      rule.condition = .outsideAllowedHours startHour endHour allowedDays utcOffsetHours →
      (policy.conditionMatchesAt rule context now = true ↔
        OutsideWindow startHour endHour allowedDays time)

/-- At every time, for every window and list of days, the window is calendar-exact
exactly for the offsets that can be multiplied. -/
theorem calendar_exact_iff (now : Int) (startHour endHour : UInt8) (allowedDays : List UInt8)
    (utcOffsetHours : Int32) :
    CalendarExact now startHour endHour allowedDays utcOffsetHours ↔
      -596523 ≤ utcOffsetHours.toInt ∧ utcOffsetHours.toInt ≤ 596523 := by
  rw [← offset_fits_iff]
  constructor
  · exact fun hexact => hexact.fits
  · intro hfits
    obtain ⟨time, htime⟩ := LocalTime.exists_seconds (now + shiftOf utcOffsetHours)
    refine ⟨hfits, time, htime, ?_⟩
    intro policy rule context hcondition
    rw [PolicySet.conditionMatchesAt, hcondition]
    exact isOutsideAllowedHoursAt_iff hfits htime

end Window

/-! ## An offset that wraps -/

/-- The product wraps to half an hour before UTC, where it is still the day
before: ten past midnight is no longer in a window that ends with the hour zero. -/
theorem wrapped_offset_outside :
    ¬ ∀ now startHour endHour allowedDays utcOffsetHours, startHour ≤ 23 → endHour ≤ 23 →
      CalendarExact now startHour endHour allowedDays utcOffsetHours := by
  intro hexact
  obtain ⟨_, time, htime, hmatches⟩ := hexact 600 0 0 [] 1193046 (by decide) (by decide)
  have hinside : ¬ OutsideWindow 0 0 [] time := by
    have hseconds : time.seconds = 600 := htime
    have hhour := time.seconds_div_hour
    rw [hseconds] at hhour
    rintro (hday | hhours)
    · exact hday.1 rfl
    · apply hhours
      rw [InHours, if_pos (by decide)]
      have hzero : time.hour.val = 0 := by omega
      rw [hzero]
      exact ⟨Nat.le_refl 0, Nat.le_refl 0⟩
  let rule : PolicyRule :=
    ⟨"midnight only", "", .outsideAllowedHours 0 0 [] 1193046, .reject "outside hours"⟩
  let context : PolicyEvaluationContext :=
    { proposal := ⟨"wallet", .devnet, "", []⟩
      simulationResult := none
      network := .devnet
      sessionSpendLamports := 0
      walletDailySpendLamports := 0 }
  have hmatch : PolicySet.conditionMatchesAt ⟨[], [], []⟩ rule context 600 = true := by decide
  exact hinside ((hmatches ⟨[], [], []⟩ rule context rfl).mp hmatch)

end SolFrontier.RiskEngine
