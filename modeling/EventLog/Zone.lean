import EventLog.Text.Decimal

set_option autoImplicit false

/-! # Time zones with a fixed offset

A zone says how many seconds its clocks are ahead of universal time, if that is known, and may have a
name. A zone without a name but with a known offset is named by its offset. The local zone is the
zone of the clocks that belong to no zone; its offset is always known. -/

namespace EventLog

/-- A time zone; `offset` counts the full seconds by which its clocks are ahead. It is the same at all
    times, and asking for it, or for the name, never fails. -/
structure Zone where
  offset : Option Int
  name : Option Text
deriving DecidableEq

/-- The zone of clocks that belong to no zone; `minutes` counts how far they are ahead. -/
structure LocalZone where
  name : Text
  minutes : Int
deriving DecidableEq

namespace Zone

/-- The name of a zone that has only an offset: hours and minutes after a sign, and seconds if there
    are any. -/
def offsetName (seconds : Int) : Text :=
  if seconds = 0 then "UTC"
  else
    let n := seconds.natAbs
    let sign : Char := if seconds < 0 then '-' else '+'
    "UTC" ++ sign :: (Text.ofNatPadded 2 (n / 3600) ++ ':' :: Text.ofNatPadded 2 (n / 60 % 60)
      ++ if n % 60 = 0 then [] else ':' :: Text.ofNatPadded 2 (n % 60))

/-- The name by which a zone is known; it is empty for a zone of which nothing is known. -/
def shownName (z : Zone) : Text :=
  match z.name, z.offset with
  | some name, _ => name
  | none, some seconds => offsetName seconds
  | none, none => []

end Zone

namespace LocalZone

/-- The zone of universal time. -/
def universal : LocalZone := ⟨"UTC", 0⟩

/-- The seconds by which local clocks are ahead. -/
def seconds (z : LocalZone) : Int :=
  z.minutes * 60

/-- The local zone as a zone like any other. -/
def toZone (z : LocalZone) : Zone :=
  ⟨some z.seconds, some z.name⟩

end LocalZone
end EventLog
