import EventLog.Text.Quoted
import EventLog.Text.Decimal

set_option autoImplicit false

/-! # Notices

The library reports on itself by notices: that a layout was compiled, that a call was refused, that
something could not be found. A notice has a severity, the name of the part of the library it comes
from, and a message. -/

namespace EventLog

/-- How severe a notice is; a higher number is more severe. -/
abbrev Severity := Int

namespace Severity

/-- A detail for finding faults. -/
def debug : Severity := 10

/-- Something happened as expected. -/
def info : Severity := 20

/-- Something was not as expected, and had no effect. -/
def warning : Severity := 30

/-- Something was refused or failed. -/
def error : Severity := 40

/-- The program cannot go on. -/
def critical : Severity := 50

/-- The severities that have a name. -/
def named : List (Severity × Text) :=
  [(debug, "DEBUG"), (info, "INFO"), (warning, "WARNING"), (error, "ERROR"), (critical, "CRITICAL")]

/-- The name of a severity; one without a name is shown by its number. -/
def name (s : Severity) : Text :=
  (named.lookup s).getD ("Level " ++ Text.ofInt s)

end Severity

/-- Something that the library reports about itself. -/
inductive Notice where
  /-- A layout was compiled to a number of segments. -/
  | compiled (layout : Text) (segments : Nat)
  /-- A provider raised an exception because it did not find a source location. -/
  | lookupFailed (reason : Text)
  /-- An argument of a log call was neither shown nor attached to the event. -/
  | surplusArgument (kind : Text)
  /-- A configuration came after the first event. -/
  | alreadyInUse
  /-- An appender class came after the first event, and the configuration forbids that. -/
  | injectionRefused
  /-- A level was to be set to nothing. -/
  | levelMissing
  /-- The configuration file of this path does not have the form of a document. -/
  | fileMalformed (path : Text)
deriving DecidableEq

namespace Notice

/-- The severity of a notice. -/
def severity : Notice → Severity
  | compiled .. | lookupFailed _ | surplusArgument _ => Severity.debug
  | levelMissing => Severity.warning
  | alreadyInUse | injectionRefused | fileMalformed _ => Severity.error

/-- The part of the library that a notice comes from. -/
def origin : Notice → Text
  | compiled .. => "patternlog.layout.compiler"
  | lookupFailed _ => "patternlog.layout.location"
  | surplusArgument _ => "patternlog.logger"
  | alreadyInUse | injectionRefused | levelMissing => "patternlog.registry"
  | fileMalformed _ => "patternlog.config_loader"

/-- The text of a notice. -/
def message : Notice → Text
  | compiled layout segments =>
      "Compiled layout " ++ Text.quoted layout ++ " into " ++ Text.ofNat segments ++ " segment(s)"
  | lookupFailed reason => "Source location lookup failed: " ++ reason
  | surplusArgument kind => "Ignoring surplus log argument of type " ++ kind
  | alreadyInUse => "Could not configure - already in use"
  | injectionRefused => "Cannot add appender when configuration finalized"
  | levelMissing => "Ignoring set_log_level without a level"
  | fileMalformed path => "Error parsing YAML file: " ++ path

/-- The notice on one line: severity, origin and message. -/
def line (n : Notice) : Text :=
  Severity.name n.severity ++ ' ' :: (n.origin ++ ' ' :: n.message)

end Notice
end EventLog
