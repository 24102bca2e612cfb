import EventLog.Event
import EventLog.Fault
import EventLog.Path

set_option autoImplicit false

/-! # Providers of source locations

Where a log call was made is asked of a provider. The silent one knows nothing. One that looks at the
call stack takes the frame a given number of frames from the innermost one, and shows file names below
a base directory relative to it, where both are read in the working directory. Any other provider is a
function of how often it was asked before and of the event; it may also raise an exception. A provider
counts how often it is asked. -/

namespace EventLog

/-- The answer of a provider. -/
inductive Lookup where
  | found (l : SourceLocation)
  | unknown
  | raised (e : Exception)

/-- Where a provider takes its answers from. -/
inductive LocationSource where
  | silent
  /-- The frame `depth` frames from the end of the call stack, the absolute base directory, and the
      working directory. -/
  | callStack (depth : Nat) (base : Option Text) (directory : Text)
  /-- The answer to each question, from the number of questions before. -/
  | custom (answer : Nat → Event → Lookup)

/-- A provider of source locations, and how often it was asked. -/
structure Provider where
  source : LocationSource
  calls : Nat

namespace LocationSource

/-- The absolute path of the base directory, if one is given. -/
def absoluteBase (directory : Text) : Option Text → Option Text
  | some (c :: name) => some (Path.absolute directory (c :: name))
  | _ => none

/-- The source that looks at the call stack, from the depth of the frame, the base directory and the
    working directory. -/
def ofCallStack (depth : Int) (base : Option Text) (directory : Text := ['/']) :
    Except Fault LocationSource :=
  if depth < 1 then .error .callerDepth
  else .ok (.callStack depth.toNat (absoluteBase directory base) directory)

/-- The name under which a file is shown. -/
def shownFile (base : Option Text) (directory file : Text) : Text :=
  match base with
  | none => file
  | some b => (Path.relativeTo? b (Path.absolute directory file)).getD file

/-- The frame that many frames from the end of the stack; the last frame is at depth 1. -/
def frameAt? (stack : List Frame) (depth : Nat) : Option Frame :=
  if depth = 0 then none else stack.reverse[depth - 1]?

/-- The place of a frame. -/
def ofFrame (base : Option Text) (directory : Text) (f : Frame) : SourceLocation where
  file := some (shownFile base directory f.file)
  line := (f.line.map Value.int).getD .null
  column := (f.column.map Value.int).getD .null

/-- The answer of the source when it was asked `calls` times before. -/
def answer (s : LocationSource) (calls : Nat) (e : Event) : Lookup :=
  match s with
  | silent => .unknown
  | callStack depth base directory =>
      match frameAt? e.stack depth with
      | some f => .found (ofFrame base directory f)
      | none => .unknown
  | custom answer => answer calls e

end LocationSource

namespace Provider

/-- The provider that knows nothing. -/
def silent : Provider := ⟨.silent, 0⟩

/-- A provider that was not asked yet. -/
def ofSource (s : LocationSource) : Provider := ⟨s, 0⟩

/-- The answer of the provider, and the provider after it. -/
def locate (p : Provider) (e : Event) : Lookup × Provider :=
  (p.source.answer p.calls e, { p with calls := p.calls + 1 })

end Provider
end EventLog
