import SolFrontier.Foundation.SerdeOpen

/-! # Moments in UTC

A moment is a number of whole seconds since the epoch, within the years of the
calendar, and the nanoseconds after them. Its text is that of a library.
-/

namespace Foundation

/-- The seconds of the calendar, from the year -262143 to the year 262142. -/
def InCalendar (seconds : Int64) : Prop := -8334601228800 ≤ seconds ∧ seconds ≤ 8210266876799

instance (seconds : Int64) : Decidable (InCalendar seconds) :=
  inferInstanceAs (Decidable (_ ∧ _))

/-- A moment. A leap second has more than a second's nanoseconds. -/
structure DateTime where
  seconds : Int64
  nanos : UInt32
  inCalendar : InCalendar seconds
  inSecond : nanos < 1000000000 ∨ nanos < 2000000000 ∧ seconds.toInt % 60 = 59
  deriving DecidableEq, Repr

namespace DateTime

/-- A moment of these counts, if there is one. -/
def ofCounts (seconds : Int64) (nanos : UInt32) : Option DateTime :=
  if h : InCalendar seconds ∧
      (nanos < 1000000000 ∨ nanos < 2000000000 ∧ seconds.toInt % 60 = 59) then
    some { seconds, nanos, inCalendar := h.1, inSecond := h.2 }
  else none

/-- `timestamp_opt` without nanoseconds. -/
def ofTimestamp (seconds : Int64) : Option DateTime := ofCounts seconds 0

theorem ofCounts_self (moment : DateTime) :
    ofCounts moment.seconds moment.nanos = some moment :=
  dif_pos ⟨moment.inCalendar, moment.inSecond⟩

end DateTime

/-- How a library writes moments and reads them back. -/
structure DateTimeText where
  print : DateTime → String
  parse : String → Option DateTime
  parse_print : ∀ moment, parse (print moment) = some moment

namespace DateTimeText

/-- A moment is its text. -/
def serde (texts : DateTimeText) : Serde DateTime := .text texts.print texts.parse texts.parse_print

/-- Texts of the two counts in brackets. -/
def counted : DateTimeText where
  print moment := Serde.i64.list.format.toText [moment.seconds, moment.nanos.toUInt64.toInt64]
  parse text := (Serde.i64.list.format.ofText text).bind fun
    | [seconds, nanos] => DateTime.ofCounts seconds nanos.toUInt64.toUInt32
    | _ => none
  parse_print moment := by
    rw [Format.ofText_toText (Serde.keeps _ _), Option.bind_some]
    simp only [UInt64.toUInt64_toInt64, UInt32.toUInt32_toUInt64]
    exact moment.ofCounts_self

theorem counted_head (moment : DateTime) : (counted.print moment).toList.head? = some '[' := by
  simp [counted, Format.toText, Serde.format, Serde.list, Json.compact]

/-- The same texts but for one moment, which has a text of its own. -/
def pinned (texts : DateTimeText) (moment : DateTime) (text : String)
    (hfresh : ∀ other, texts.print other ≠ text) : DateTimeText where
  print other := if other = moment then text else texts.print other
  parse read := if read = text then some moment else texts.parse read
  parse_print other := by
    by_cases hother : other = moment
    · simp [hother]
    · simp [hother, hfresh other, texts.parse_print other]

end DateTimeText

end Foundation
