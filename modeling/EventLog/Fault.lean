import EventLog.Exception

set_option autoImplicit false

/-! # What can go wrong

The causes for which an operation of the library ends without an answer, and the text that is
reported for each. -/

namespace EventLog

/-- Why an operation ended without an answer. -/
inductive Fault where
  /-- A level is given by a name that no level has. -/
  | unknownLevel (name : Text)
  /-- A level is given by a date, a list, a mapping or an error. -/
  | levelNotANumber
  /-- A level is given by an infinite number. -/
  | levelInfinite
  /-- A level is given by an undefined number. -/
  | levelUndefined
  /-- Rendering was asked for without a directive. -/
  | noDirective
  /-- A call-stack provider is asked to look at a frame nearer than the last one. -/
  | callerDepth
  /-- What the library calls raised an exception: a source-location provider one that does not just
      say "not known", an appender, or the reader of settings files. -/
  | raised (e : Exception)
  /-- What is to be registered is no appender class; `shown` is its text, if it has a stable one. -/
  | notAnAppender (shown : Option Text)
  /-- The appender class has no name. -/
  | namelessAppender (className : Text)
  /-- A configuration names an appender that is not built in. -/
  | unknownAppender (name : Text)
  /-- A configuration is no mapping. -/
  | settingsNotAMapping
  /-- The loggers of a configuration are not given as a list. -/
  | loggersNotAList
  /-- The definition of a logger is not a mapping. -/
  | definitionNotAMapping
  /-- The tag of a logger cannot be a key. -/
  | tagNotAKey
  /-- The default layout is not a text; `searchable` tells whether it could be looked up. -/
  | layoutNotAText (searchable : Bool)
  /-- A value stands where a mapping or a list of pairs is expected. -/
  | notAMapping
  /-- One of a list of pairs has not two parts. -/
  | notAPair
  /-- The first part of a pair cannot be a key. -/
  | keyNotAllowed
  /-- There is no configuration file of this path. -/
  | configurationMissing (path : Text)
  /-- The configuration file of this path does not hold a mapping. -/
  | configurationNotAMapping (path : Text)
  /-- The format of diagnostic lines refers to no field. -/
  | formatWithoutField (format : Text)
  /-- The severity threshold has a name that no severity has. -/
  | unknownSeverity (name : Text)
  /-- The severity threshold is neither a number nor a name. -/
  | severityNotANumber

namespace Fault

/-- The text that is reported for a fault. -/
def message : Fault → Text
  | unknownLevel name => "Unknown log level name: " ++ name
  | levelNotANumber => "A log level is a name or a number"
  | levelInfinite => "An infinite number is no log level"
  | levelUndefined => "An undefined number is no log level"
  | noDirective => "Unsupported directive kind: None"
  | callerDepth => "caller_depth must be at least 1."
  | raised e => e.text
  | notAnAppender shown =>
      "Invalid appender: " ++ shown.getD "it" ++ " is not a LogAppender subclass"
  | namelessAppender className => "Invalid appender: " ++ className ++ " has no name"
  | unknownAppender name => "Unknown appender name: " ++ name
  | settingsNotAMapping => "A configuration is a mapping"
  | loggersNotAList => "Invalid loggers: expected a list of logger definitions."
  | definitionNotAMapping => "A logger definition is a mapping"
  | tagNotAKey => "A tag is a text or a number"
  | layoutNotAText _ => "A layout is a text"
  | notAMapping => "A mapping or a list of pairs is expected"
  | notAPair => "A pair has two parts"
  | keyNotAllowed => "A key is a text, a number or a truth value"
  | configurationMissing path => "Configuration file not found: " ++ path
  | configurationNotAMapping path => "Configuration file must contain a mapping: " ++ path
  | formatWithoutField format => "Invalid format '" ++ format ++ "'"
  | unknownSeverity name => "Unknown level: " ++ name
  | severityNotANumber => "A severity is a name or a number"

end Fault
end EventLog
