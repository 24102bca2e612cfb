import EventLog.Fault
import EventLog.Text.Blank
import EventLog.Text.Upper
import EventLog.Value

set_option autoImplicit false

/-! # Levels

A level is a whole number, and a lower level is more severe. Six levels have a name that a layout
shows; a level between them is shown as the least severe of the six. Two more names, one below and
one above all others, can be used to set a threshold. -/

namespace EventLog

/-- How severe an event is, and how severe it must be to pass a threshold. -/
abbrev Level := Int

namespace Level

/-- Lower than the level of any event. -/
def off : Level := 0

/-- The program cannot go on. -/
def fatal : Level := 100

/-- Something failed. -/
def error : Level := 200

/-- Something may go wrong later. -/
def warn : Level := 300

/-- Something happened as expected. -/
def info : Level := 400

/-- A detail for finding faults. -/
def debug : Level := 500

/-- The finest detail. -/
def trace : Level := 600

/-- Higher than the level of any event. -/
def all : Level := 2147483647

/-- The levels that a layout shows by name. -/
def shown : List (Level × Text) :=
  [(fatal, "FATAL"), (error, "ERROR"), (warn, "WARN"), (info, "INFO"), (debug, "DEBUG"),
    (trace, "TRACE")]

/-- The names by which a threshold can be set. -/
def named : List (Text × Level) :=
  [("OFF", off), ("FATAL", fatal), ("ERROR", error), ("WARN", warn), ("INFO", info),
    ("DEBUG", debug), ("TRACE", trace), ("ALL", all)]

/-- The name that a layout shows for a level. -/
def name (l : Level) : Text :=
  (shown.lookup l).getD "TRACE"

/-- The level of that name; capitals do not matter, nor does white space around it. -/
def ofName? (t : Text) : Option Level :=
  named.lookup (Text.upper (Text.strip t))

/-- The level that a value stands for: a name, or a number without its places after the point.
    Nothing stands for `default`. -/
def ofValue (default : Option Level) : Value → Except Fault (Option Level)
  | .null => .ok default
  | .bool b => .ok (some (if b then 1 else 0))
  | .int n => .ok (some n)
  | .float x =>
      match Double.magnitude x with
      | .infinite => .error .levelInfinite
      | .undefined => .error .levelUndefined
      | .finite .. => .ok (Double.truncate? x)
  | .str t =>
      match ofName? t with
      | some l => .ok (some l)
      | none => .error (.unknownLevel t)
  | .date _ | .clock .. | .list _ | .map _ | .error _ | .other .. => .error .levelNotANumber

end Level
end EventLog
