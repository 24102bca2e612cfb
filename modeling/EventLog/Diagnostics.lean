import EventLog.Fault
import EventLog.Notice
import EventLog.Table
import EventLog.Value

set_option autoImplicit false

/-! # Where notices go

Notices are written by handlers. There is always one that writes nothing, the host may add its own,
and `setup` installs one that writes lines in a given format to a stream and takes away the one it
installed before; the handlers of the host are left alone. A notice is passed to all handlers if it is
as severe as the threshold asks for. -/

namespace EventLog

/-! ## Formats of lines -/

/-- A part of the format of a line. -/
inductive FormatPart where
  | name
  | severity
  | message
  | text (t : Text)
deriving DecidableEq

namespace FormatPart

/-- The fields of a format by their marks. -/
def fields : List (Text × FormatPart) :=
  [("%(name)s", name), ("%(levelname)s", severity), ("%(message)s", message), ("%%", text ['%'])]

/-- The mark that a format starts with, and its part. -/
def atStart? (t : Text) : Option (Text × FormatPart) :=
  fields.find? fun f => f.1.isPrefixOf t

/-- The parts of a format after the next `skip` characters, which belong to a mark already read. -/
def partsFrom : Nat → Text → List FormatPart
  | _, [] => []
  | skip + 1, _ :: rest => partsFrom skip rest
  | 0, c :: rest =>
      match atStart? (c :: rest) with
      | some (mark, part) => part :: partsFrom (mark.length - 1) rest
      | none => text [c] :: partsFrom 0 rest

/-- The parts of a format. -/
def parse (format : Text) : List FormatPart :=
  partsFrom 0 format

/-- Whether the part is a field. -/
def isField : FormatPart → Bool
  | text _ => false
  | _ => true

/-- Whether the mark of a field stands anywhere in a format. -/
def hasField : Text → Bool
  | [] => false
  | c :: rest => (atStart? (c :: rest)).any (·.2.isField) || hasField rest

/-- What stands for the part in a line. -/
def shown (origin : Text) (s : Severity) (body : Text) : FormatPart → Text
  | name => origin
  | severity => s.name
  | message => body
  | text t => t

end FormatPart

/-- What puts origin, severity and message of a notice into a text, if it can. -/
abbrev Formatter := Text → Severity → Text → Option Text

namespace Formatter

/-- The formatter of a format, which has to have a field. -/
def ofFormat? (format : Text) : Option Formatter :=
  if FormatPart.hasField format then
    some fun origin s body => some ((FormatPart.parse format).flatMap (FormatPart.shown origin s body))
  else none

end Formatter

/-! ## Handlers -/

/-- A handler of notices. -/
inductive Handler where
  /-- Writes nothing. -/
  | quiet
  /-- A handler of the host, which writes messages to a stream. -/
  | host (stream : Text)
  /-- The handler that was set up, which writes to a stream what its formatter makes of notices. -/
  | installed (stream : Text) (formatter : Formatter)

namespace Handler

/-- Whether the handler was set up, and not added by the host. -/
def isInstalled : Handler → Bool
  | installed .. => true
  | _ => false

/-- The stream and the line that the handler writes for a notice; one that its formatter makes nothing of is
    not written. -/
def line? (origin : Text) (s : Severity) (body : Text) : Handler → Option (Text × Text)
  | quiet => none
  | host stream => some (stream, body ++ ['\n'])
  | installed stream formatter => (formatter origin s body).map fun t => (stream, t ++ ['\n'])

end Handler

/-! ## The channel of notices -/

/-- The handlers, the threshold, and what the streams hold. -/
structure Diagnostics where
  threshold : Severity
  handlers : List Handler
  streams : Table Text Text

namespace Diagnostics

/-- The name of the library, under which all names of notices stand. -/
def root : Text := "patternlog"

/-- The channel at the start: it writes nothing. -/
def initial : Diagnostics := ⟨0, [.quiet], []⟩

/-- The threshold of a channel that has none of its own. -/
def inherited : Severity := Severity.warning

/-- The format of lines if none is given; the host puts the time in. -/
def defaultFormat : Text := "%(asctime)s - %(name)s - %(levelname)s - %(message)s"

/-- The format that an empty one stands for. -/
def plainFormat : Text := "%(message)s"

/-- The format that is used where one is given. -/
def usedFormat (format : Text) : Text :=
  if format.isEmpty then plainFormat else format

/-- The stream that is used if none is given. -/
def defaultStream : Text := "stderr"

/-- The name under which the notices of a part of the library stand. -/
def fullName (name : Text) : Text :=
  if name = root ∨ (root ++ ['.']).isPrefixOf name then name else root ++ '.' :: name

/-- The threshold that is in force. -/
def effective (d : Diagnostics) : Severity :=
  if d.threshold = 0 then inherited else d.threshold

/-- The channel after a handler was added by the host. -/
def addHost (d : Diagnostics) (stream : Text) : Diagnostics :=
  { d with handlers := d.handlers ++ [.host stream] }

/-- The names by which a threshold can be set. -/
def thresholdNames : List (Text × Severity) :=
  [("CRITICAL", Severity.critical), ("FATAL", Severity.critical), ("ERROR", Severity.error),
    ("WARN", Severity.warning), ("WARNING", Severity.warning), ("INFO", Severity.info),
    ("DEBUG", Severity.debug), ("NOTSET", 0)]

/-- The threshold that a value stands for. -/
def thresholdOf : Value → Except Fault Severity
  | .int n => .ok n
  | .bool b => .ok (if b then 1 else 0)
  | .str name =>
      match thresholdNames.lookup name with
      | some s => .ok s
      | none => .error (.unknownSeverity name)
  | _ => .error .severityNotANumber

/-- Installs a handler in place of the one that was installed before, and sets the threshold. A format that
    has no formatter is refused. -/
def setup (threshold : Value) (format stream : Text)
    (formatter? : Text → Option Formatter := Formatter.ofFormat?) : EStateM Fault Diagnostics Unit :=
  fun d =>
    let d := { d with handlers := d.handlers.filter (!·.isInstalled) }
    match formatter? (usedFormat format) with
    | none => .error (.formatWithoutField (usedFormat format)) d
    | some formatter =>
        let d := { d with handlers := d.handlers ++ [.installed stream formatter] }
        match thresholdOf threshold with
        | .error f => .error f d
        | .ok s => .ok () { d with threshold := s }

/-- Writes a line to a stream. -/
def write (streams : Table Text Text) (line : Text × Text) : Table Text Text :=
  streams.put line.1 ((streams.get? line.1).getD [] ++ line.2)

/-- Passes a notice to the handlers, if it is severe enough; severity zero and below never is. -/
def emit (d : Diagnostics) (origin : Text) (s : Severity) (body : Text) : Diagnostics :=
  if 0 < s ∧ d.effective ≤ s then
    { d with streams := (d.handlers.filterMap (Handler.line? origin s body)).foldl write d.streams }
  else d

/-- Passes a notice of the library to the handlers. -/
def emitNotice (d : Diagnostics) (n : Notice) : Diagnostics :=
  d.emit n.origin n.severity n.message

/-- The number of handlers that were set up. -/
def installedCount (d : Diagnostics) : Nat :=
  d.handlers.countP Handler.isInstalled

/-- Emitting does not change handlers or threshold. -/
theorem handlers_emit (d : Diagnostics) (origin : Text) (s : Severity) (body : Text) :
    (d.emit origin s body).handlers = d.handlers ∧ (d.emit origin s body).threshold = d.threshold := by
  unfold emit
  split <;> exact ⟨rfl, rfl⟩

end Diagnostics
end EventLog
