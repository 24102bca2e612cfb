set_option autoImplicit false

/-! # The calendar

Dates of the Gregorian calendar, which is also used for the years before it was introduced, from the
first day of the year 1 to the last day of the year 9999. A date has a number, the count of days up
to and including it; the day with number 1 is a Monday. `Date.ofNumber?` finds the date with a given
number. A wall clock is a date with a time of day; on a scale of microseconds it can be shifted. -/

namespace EventLog

/-! ## Years and months -/

/-- Whether a year has a leap day. -/
def isLeapYear (year : Nat) : Bool :=
  year % 4 == 0 && (year % 100 != 0 || year % 400 == 0)

/-- The lengths of the twelve months of a year. -/
def monthLengths (year : Nat) : List Nat :=
  [31, if isLeapYear year then 29 else 28, 31, 30, 31, 30, 31, 31, 30, 31, 30, 31]

/-- The length of a month; months are counted from 1. -/
def daysInMonth (year month : Nat) : Nat :=
  (monthLengths year).getD (month - 1) 0

/-- The number of days of the years before this one. -/
def daysBeforeYear (year : Nat) : Nat :=
  let y := year - 1
  365 * y + y / 4 - y / 100 + y / 400

/-- The number of days of the months of a year before this one. -/
def daysBeforeMonth (year month : Nat) : Nat :=
  ((monthLengths year).take (month - 1)).foldr (· + ·) 0

/-- The year in which the day lies that comes `n` days after the first day of the year 1. -/
def yearOfDay (n : Nat) : Nat :=
  let days := n % 146097
  let century := min 3 (days / 36524)
  let days' := days - century * 36524
  let leapCycle := days' / 1461
  let rest := days' % 1461
  n / 146097 * 400 + century * 100 + leapCycle * 4 + min 3 (rest / 365) + 1

/-- Month and day of the month of the day with index `n`, from the lengths of the months that are
    left, the first of which is `month`. -/
def monthOfDay (month n : Nat) : List Nat → Nat × Nat
  | [] => (month, n + 1)
  | length :: rest => if n < length then (month, n + 1) else monthOfDay (month + 1) (n - length) rest

/-! ## Dates -/

/-- A date of the calendar. -/
structure Date where
  year : Nat
  month : Nat
  day : Nat
  valid : 1 ≤ year ∧ year ≤ 9999 ∧ 1 ≤ month ∧ month ≤ 12 ∧ 1 ≤ day ∧ day ≤ daysInMonth year month
deriving DecidableEq

namespace Date

/-- The date with these parts, if there is one. -/
def ofParts? (year month day : Nat) : Option Date :=
  if h : 1 ≤ year ∧ year ≤ 9999 ∧ 1 ≤ month ∧ month ≤ 12 ∧ 1 ≤ day ∧ day ≤ daysInMonth year month then
    some ⟨year, month, day, h⟩
  else none

/-- The count of days up to and including the date. -/
def number (d : Date) : Nat :=
  daysBeforeYear d.year + daysBeforeMonth d.year d.month + d.day

/-- The date with this number. -/
def ofNumber? : Nat → Option Date
  | 0 => none
  | n + 1 =>
      let year := yearOfDay n
      let (month, day) := monthOfDay 1 (n - daysBeforeYear year) (monthLengths year)
      ofParts? year month day

/-- The day of the week, counted from 0 for Sunday. -/
def weekday (d : Date) : Nat :=
  d.number % 7

theorem ofParts?_self (d : Date) : ofParts? d.year d.month d.day = some d := by
  simp [ofParts?, d.valid]

theorem weekday_lt (d : Date) : d.weekday < 7 :=
  Nat.mod_lt _ (by decide)

end Date

/-! ## Times of day -/

/-- A time of day, down to the microsecond. -/
structure TimeOfDay where
  hour : Nat
  minute : Nat
  second : Nat
  micro : Nat
  valid : hour < 24 ∧ minute < 60 ∧ second < 60 ∧ micro < 1000000
deriving DecidableEq

namespace TimeOfDay

/-- The time of day with these parts, if there is one. -/
def ofParts? (hour minute second micro : Nat) : Option TimeOfDay :=
  if h : hour < 24 ∧ minute < 60 ∧ second < 60 ∧ micro < 1000000 then
    some ⟨hour, minute, second, micro, h⟩
  else none

/-- The first moment of a day. -/
def midnight : TimeOfDay :=
  ⟨0, 0, 0, 0, by decide⟩

/-- The number of microseconds of a day. -/
def microsPerDay : Nat := 86400000000

/-- The microseconds since midnight. -/
def micros (t : TimeOfDay) : Nat :=
  ((t.hour * 60 + t.minute) * 60 + t.second) * 1000000 + t.micro

/-- The time of day that many microseconds after midnight; whole days do not count. -/
def ofMicros (n : Nat) : TimeOfDay where
  hour := n / 3600000000 % 24
  minute := n / 60000000 % 60
  second := n / 1000000 % 60
  micro := n % 1000000
  valid := ⟨Nat.mod_lt _ (by decide), Nat.mod_lt _ (by decide), Nat.mod_lt _ (by decide),
    Nat.mod_lt _ (by decide)⟩

theorem micros_lt (t : TimeOfDay) : t.micros < microsPerDay := by
  have := t.valid
  simp only [micros, microsPerDay]
  omega

theorem micros_ofMicros (n : Nat) (h : n < microsPerDay) : (ofMicros n).micros = n := by
  simp only [micros, ofMicros, microsPerDay] at *
  omega

theorem ofMicros_micros (t : TimeOfDay) : ofMicros t.micros = t := by
  obtain ⟨hour, minute, second, micro, h⟩ := t
  simp only [ofMicros, micros, mk.injEq]
  omega

end TimeOfDay

/-! ## Wall clocks -/

/-- What a clock on a wall with a calendar shows. -/
structure WallClock where
  date : Date
  time : TimeOfDay
deriving DecidableEq

namespace WallClock

/-- The microseconds since the midnight before the first day of the calendar. -/
def micros (w : WallClock) : Nat :=
  (w.date.number - 1) * TimeOfDay.microsPerDay + w.time.micros

/-- The wall clock that many microseconds after the midnight before the first day. -/
def ofMicros? : Int → Option WallClock
  | .negSucc _ => none
  | .ofNat n =>
      (Date.ofNumber? (n / TimeOfDay.microsPerDay + 1)).map fun date =>
        ⟨date, TimeOfDay.ofMicros (n % TimeOfDay.microsPerDay)⟩

/-- The microsecond, in universal time, at which a wall clock is that is so many seconds ahead. -/
def instant (w : WallClock) (ahead : Int) : Int :=
  w.micros - ahead * 1000000

/-- The wall clock that many seconds later, if the calendar still has that day. -/
def later? (w : WallClock) (seconds : Int) : Option WallClock :=
  ofMicros? (w.micros + seconds * 1000000)

/-- The midnight from which the milliseconds of an event are counted, 1 January 1970. -/
def epochMicros : Nat := 719162 * TimeOfDay.microsPerDay

/-- The last microsecond of the calendar. -/
def lastMicros : Nat := 3652059 * TimeOfDay.microsPerDay - 1

/-- Hour on a dial of twelve hours, where noon and midnight are at twelve. -/
def dialHour (w : WallClock) : Nat :=
  if w.time.hour % 12 = 0 then 12 else w.time.hour % 12

/-- Milliseconds after the full second. -/
def milli (w : WallClock) : Nat :=
  w.time.micro / 1000

end WallClock
end EventLog
