import EventLog.Text.Decimal
import EventLog.Timestamp

set_option autoImplicit false

/-! # Fields of a date pattern

A field is one of the things that a date can show, in one of several forms, and has one spelling in
patterns. A number written with a leading zero has two digits; the milliseconds and the full year
are written without leading zeros. -/

namespace EventLog

/-- A field of a date pattern. -/
inductive DateField where
  | day | dayPadded | weekdayShort | weekdayFull
  | month | monthPadded | monthShort | monthFull
  | yearShort | yearFull
  | dialHour | dialHourPadded | hour | hourPadded
  | minute | minutePadded | second | secondPadded | milli
  | halfInitial | half | halfInitialCapital | halfCapital
  | zone | offset
deriving DecidableEq

namespace DateField

/-- How the field is written in a pattern. -/
def spelling : DateField → Text
  | day => "d"
  | dayPadded => "dd"
  | weekdayShort => "ddd"
  | weekdayFull => "dddd"
  | month => "M"
  | monthPadded => "MM"
  | monthShort => "MMM"
  | monthFull => "MMMM"
  | yearShort => "yy"
  | yearFull => "yyyy"
  | dialHour => "h"
  | dialHourPadded => "hh"
  | hour => "H"
  | hourPadded => "HH"
  | minute => "m"
  | minutePadded => "mm"
  | second => "s"
  | secondPadded => "ss"
  | milli => "S"
  | halfInitial => "a"
  | half => "aa"
  | halfInitialCapital => "A"
  | halfCapital => "AA"
  | zone => "Z"
  | offset => "o"

/-- All fields, a longer spelling before a shorter one. -/
def all : List DateField :=
  [weekdayFull, monthFull, yearFull, weekdayShort, monthShort,
    dayPadded, monthPadded, yearShort, dialHourPadded, hourPadded, minutePadded, secondPadded,
    half, halfCapital,
    day, month, dialHour, hour, minute, second, milli, halfInitial, halfInitialCapital, zone, offset]

theorem mem_all (f : DateField) : f ∈ all := by
  cases f <;> decide

theorem spelling_ne_nil (f : DateField) : f.spelling ≠ [] := by
  cases f <;> decide

theorem spelling_injective : ∀ f ∈ all, ∀ g ∈ all, f.spelling = g.spelling → f = g := by
  decide

/-- The field with the longest spelling that a text starts with. -/
def atStart? (t : Text) : Option DateField :=
  all.find? fun f => f.spelling.isPrefixOf t

/-! ## What a field shows -/

/-- The days of the week, from Sunday. -/
def weekdayNames : List Text :=
  ["Sunday", "Monday", "Tuesday", "Wednesday", "Thursday", "Friday", "Saturday"]

/-- The months of the year. -/
def monthNames : List Text :=
  ["January", "February", "March", "April", "May", "June", "July", "August", "September", "October",
    "November", "December"]

/-- The first three letters of a name. -/
def short (name : Text) : Text :=
  name.take 3

/-- A numeral of at least two digits. -/
def padded (n : Nat) : Text :=
  Text.ofNatPadded 2 n

/-- Hours and minutes by which a clock is ahead, after a sign; parts of a minute count as behind. -/
def offsetText (ahead : Int) : Text :=
  let minutes := ahead / 60
  let n := minutes.natAbs
  (if minutes < 0 then '-' else '+') :: Text.ofNatPadded 4 (n / 60 * 100 + n % 60)

/-- What the field shows of a date. -/
def text (r : Reading) : DateField → Text
  | day => Text.ofNat r.clock.date.day
  | dayPadded => padded r.clock.date.day
  | weekdayShort => short (weekdayNames.getD r.clock.date.weekday [])
  | weekdayFull => weekdayNames.getD r.clock.date.weekday []
  | month => Text.ofNat r.clock.date.month
  | monthPadded => padded r.clock.date.month
  | monthShort => short (monthNames.getD (r.clock.date.month - 1) [])
  | monthFull => monthNames.getD (r.clock.date.month - 1) []
  | yearShort => (Text.ofNat r.clock.date.year).drop 2
  | yearFull => Text.ofNat r.clock.date.year
  | dialHour => Text.ofNat r.clock.dialHour
  | dialHourPadded => padded r.clock.dialHour
  | hour => Text.ofNat r.clock.time.hour
  | hourPadded => padded r.clock.time.hour
  | minute => Text.ofNat r.clock.time.minute
  | minutePadded => padded r.clock.time.minute
  | second => Text.ofNat r.clock.time.second
  | secondPadded => padded r.clock.time.second
  | milli => Text.ofNat r.clock.milli
  | halfInitial => if r.clock.time.hour < 12 then "a" else "p"
  | half => if r.clock.time.hour < 12 then "am" else "pm"
  | halfInitialCapital => if r.clock.time.hour < 12 then "A" else "P"
  | halfCapital => if r.clock.time.hour < 12 then "AM" else "PM"
  | zone => r.zone
  | offset => offsetText r.ahead

end DateField
end EventLog
