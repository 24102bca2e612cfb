import EventLog.Calendar
import EventLog.Double
import EventLog.Zone.Abbreviation
import EventLog.Zone

set_option autoImplicit false

/-! # Timestamps

The date of an event may be a wall clock of no zone, which is read as a local one, a wall clock in a
zone, a day, which means its midnight, or a number of milliseconds since the start of 1970. Anything
else is no date. `Timestamp.read?` gives what a timestamp shows, on its own wall clock or in
universal time; it shows nothing if the calendar has no day for it, or if a local clock is so near
to an end of the calendar that its offset cannot be found. -/

namespace EventLog

/-- What is given as the date of an event. -/
inductive Timestamp where
  | clock (w : WallClock)
  | zoned (w : WallClock) (zone : Zone)
  | day (d : Date)
  | millis (n : Int)
  | millisFloat (x : Float)
  | other

/-- Whether a date is shown on its own wall clock or in universal time. -/
inductive ClockMode where
  | own
  | universal
deriving DecidableEq

/-- What a date shows: a wall clock, the seconds by which it is ahead of universal time, and the
    abbreviation of its zone. -/
structure Reading where
  clock : WallClock
  ahead : Int
  zone : Text
deriving DecidableEq

namespace Timestamp

/-! ## Numbers of milliseconds -/

/-- Whole seconds and microseconds of a number of seconds, the microseconds rounded to the nearest
    whole number. -/
def splitSeconds? (seconds : Float) : Option (Int × Int) :=
  match Double.truncate? seconds with
  | none => none
  | some whole =>
      match Double.round? ((seconds - Float.ofInt whole) * 1000000.0) with
      | none => none
      | some micros =>
          if 1000000 ≤ micros then some (whole + 1, micros - 1000000)
          else if micros < 0 then some (whole - 1, micros + 1000000)
          else some (whole, micros)

/-- The seconds of a number of milliseconds. -/
def secondsOfMillis (x : Float) : Float :=
  x / 1000.0

/-- The local wall clock so many seconds and microseconds after the start of 1970. The first day of
    the calendar is out of reach. -/
def localClock? (zone : LocalZone) (split : Int × Int) : Option WallClock :=
  match WallClock.ofMicros?
      (WallClock.epochMicros + (split.1 + zone.seconds) * 1000000 + split.2) with
  | some w => if 2 ≤ w.date.number then some w else none
  | none => none

/-- The wall clock of a timestamp and its zone, which is none for a local clock. -/
def clock? (zone : LocalZone) : Timestamp → Option (WallClock × Option Zone)
  | clock w => some (w, none)
  | zoned w z => some (w, some z)
  | day d => some (⟨d, .midnight⟩, none)
  | millis n =>
      ((splitSeconds? (secondsOfMillis (Float.ofInt n))).bind (localClock? zone)).map (·, none)
  | millisFloat x =>
      ((splitSeconds? (secondsOfMillis x)).bind (localClock? zone)).map (·, none)
  | other => none

/-! ## Reading a date -/

/-- Whether the offset of a local clock can be found: it is not on the first day of the calendar,
    and not within the offset of its end. -/
def hasLocalOffset (zone : LocalZone) (w : WallClock) : Bool :=
  2 ≤ w.date.number && w.micros + zone.seconds.natAbs * 1000000 ≤ WallClock.lastMicros

/-- What a wall clock shows in universal time, from the seconds by which it is ahead. -/
def readUniversal? (w : WallClock) (ahead : Int) : Option Reading :=
  (w.later? (-ahead)).map fun u => ⟨u, 0, "UTC"⟩

/-- What a wall clock shows; without a zone it is a local clock. A zone of unknown offset counts as
    universal time on its own clock, but as the local zone when it is converted. -/
def readClock? (mode : ClockMode) (zone : LocalZone) (w : WallClock) : Option Zone → Option Reading
  | none =>
      if hasLocalOffset zone w then
        match mode with
        | .own => some ⟨w, zone.seconds, Zone.abbreviation zone.name⟩
        | .universal => readUniversal? w zone.seconds
      else none
  | some z =>
      match mode, z.offset with
      | .own, offset => some ⟨w, offset.getD 0, Zone.abbreviation z.shownName⟩
      | .universal, some ahead => readUniversal? w ahead
      | .universal, none =>
          if hasLocalOffset zone w then readUniversal? w zone.seconds else none

/-- What a timestamp shows, if it can be read as a date. -/
def read? (mode : ClockMode) (zone : LocalZone) (t : Timestamp) : Option Reading :=
  match clock? zone t with
  | some (w, z) => readClock? mode zone w z
  | none => none

/-- In universal time nothing is ahead, and the zone is universal time. -/
theorem readUniversal?_zone {w : WallClock} {ahead : Int} {r : Reading}
    (h : readUniversal? w ahead = some r) : r.ahead = 0 ∧ r.zone = "UTC" := by
  simp only [readUniversal?, Option.map_eq_some_iff] at h
  obtain ⟨u, _, rfl⟩ := h
  exact ⟨rfl, rfl⟩

end Timestamp
end EventLog
