import EventLog.Frame
import EventLog.Timestamp
import EventLog.Value

set_option autoImplicit false

/-! # Log events

An event holds what one log call said. Where the call was made is not known at first: the fields for
file, line and column are filled in when a layout shows one of them. `setLocation` fills in all three
and writes a placeholder for what is not known, so afterwards neither file nor line is empty. -/

namespace EventLog

/-- What one log call said. -/
structure Event where
  date : Timestamp
  level : Int
  logger : Text
  message : Text
  error : Option Exception
  properties : Option Entries
  method : Callable
  /-- The file of the call, once it is known. -/
  file : Option Text
  /-- The line of the call, once it is known. -/
  line : Option Text
  /-- The column of the call, once it is known. -/
  column : Option Text
  /-- The call stack, outermost frame first; empty if it was not recorded. -/
  stack : List Frame
  /-- Milliseconds since the logger was made. -/
  relative : Int
  /-- The place of the event among those of its logger. -/
  sequence : Int

/-- A place in a source file; null stands for a line or column that is not known. -/
structure SourceLocation where
  file : Option Text
  line : Value
  column : Value

namespace SourceLocation

/-- A place of which nothing is known. -/
def unknown : SourceLocation := ⟨none, .null, .null⟩

/-- What is shown for a file that is not known. -/
def unknownFile : Text := "anonymous"

/-- What is shown for a line or column that is not known. -/
def unknownPosition : Text := "?"

/-- What is shown for the file. -/
def fileText (l : SourceLocation) : Text :=
  match l.file with
  | some (c :: name) => c :: name
  | _ => unknownFile

/-- What is shown for a line or a column. -/
def positionText : Value → Text
  | .null => unknownPosition
  | v => v.text

theorem fileText_ne_nil (l : SourceLocation) : l.fileText ≠ [] := by
  unfold fileText
  split
  · simp
  · decide

end SourceLocation

namespace Event

/-- Whether file and line of the call are known. -/
def isLocated (e : Event) : Bool :=
  e.file.isSome && e.line.isSome

/-- The event with the place of its call filled in. -/
def setLocation (e : Event) (l : SourceLocation) : Event :=
  { e with
    file := some l.fileText
    line := some (SourceLocation.positionText l.line)
    column := some (SourceLocation.positionText l.column) }

theorem isPresent_file_setLocation (e : Event) (l : SourceLocation) :
    Text.isPresent (e.setLocation l).file = true := by
  have h := l.fileText_ne_nil
  simp only [setLocation]
  cases hf : l.fileText with
  | nil => exact absurd hf h
  | cons c t => rfl

end Event
end EventLog
