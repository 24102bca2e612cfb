import EventLog.Calendar
import EventLog.Text.Decimal

set_option autoImplicit false

/-! # How dates are written

A date or a wall clock can be a value. As text it is written with its parts from the year on; as an
expression, with the parts as arguments, where seconds and microseconds are left out if they and what
follows them are zero. A wall clock may come with the seconds by which it is ahead of universal time. -/

namespace EventLog

namespace Date

/-- The date as text. -/
def text (d : Date) : Text :=
  Text.ofNatPadded 4 d.year ++ '-' :: (Text.ofNatPadded 2 d.month ++ '-' :: Text.ofNatPadded 2 d.day)

/-- The parts of the date. -/
def parts (d : Date) : List Nat :=
  [d.year, d.month, d.day]

/-- The date as an expression. -/
def expression (d : Date) : Text :=
  "datetime.date(" ++ Text.join ", " (d.parts.map Text.ofNat) ++ ")"

end Date

namespace TimeOfDay

/-- The time of day as text; the microseconds are left out if there are none. -/
def text (t : TimeOfDay) : Text :=
  Text.join ":" ([t.hour, t.minute, t.second].map (Text.ofNatPadded 2))
    ++ if t.micro = 0 then [] else '.' :: Text.ofNatPadded 6 t.micro

/-- The parts of the time of day; seconds and microseconds only as far as they are not zero. -/
def parts (t : TimeOfDay) : List Nat :=
  [t.hour, t.minute]
    ++ if t.micro ≠ 0 then [t.second, t.micro] else if t.second ≠ 0 then [t.second] else []

end TimeOfDay

namespace WallClock

/-- Hours and minutes by which a clock is ahead, behind a sign. -/
def aheadText (seconds : Int) : Text :=
  let n := seconds.natAbs / 60
  (if seconds < 0 then '-' else '+') :: (Text.ofNatPadded 2 (n / 60) ++ ':' :: Text.ofNatPadded 2 (n % 60))

/-- The wall clock as text. -/
def text (w : WallClock) (ahead : Option Int) : Text :=
  w.date.text ++ ' ' :: (w.time.text ++ (ahead.map aheadText).getD [])

/-- The seconds by which a clock is ahead as an expression. -/
def aheadExpression (seconds : Int) : Text :=
  if seconds = 0 then "datetime.timezone.utc"
  else
    let days : Text := if seconds < 0 then "days=-1, " else []
    "datetime.timezone(datetime.timedelta(" ++ days ++ "seconds="
      ++ Text.ofInt (if seconds < 0 then seconds + 86400 else seconds) ++ "))"

/-- The wall clock as an expression. -/
def expression (w : WallClock) (ahead : Option Int) : Text :=
  "datetime.datetime(" ++ Text.join ", " ((w.date.parts ++ w.time.parts).map Text.ofNat)
    ++ (ahead.map fun seconds => ", tzinfo=".toList ++ aheadExpression seconds).getD [] ++ ")"

end WallClock
end EventLog
