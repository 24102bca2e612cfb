import EventLog.Exception

set_option autoImplicit false

/-! # Exceptions in a log line

A layout shows the exception of an event below the line: the report with a tab in front of every
line, or, for an exception without a report, its class and text, if the text is not empty. -/

namespace EventLog.Exception

/-- The lines of a text, each with a tab in front and a line feed behind. -/
def indent (t : Text) : Text :=
  (Text.lines t).flatMap fun l => '\t' :: (l ++ ['\n'])

/-- A report without the line feeds at its end. -/
def trimmed (report : Text) : Text :=
  Text.dropEndWhile (· = '\n') report

/-- Class and text on a line behind a tab; nothing if the text is empty. -/
def summary (e : Exception) : Text :=
  if e.text.isEmpty then [] else '\t' :: (e.name ++ ": " ++ e.text ++ "\n")

/-- What a layout shows of an exception. -/
def indented (e : Exception) : Text :=
  match e.report with
  | some report => indent (trimmed report)
  | none => e.summary

end EventLog.Exception
