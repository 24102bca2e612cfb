import EventLog.Exception
import EventLog.Frame
import EventLog.Text.Decimal

set_option autoImplicit false

/-! # Reports of exceptions

The reports of exceptions for the runs of the library, in place of the host's own. The report of an
exception shows the exceptions that led to it first. Each one is shown with the frames it passed
through and ends with a line that names its class and message. Of frames that are equal and follow
each other, three are shown and the others counted. The source lines of the frames are not known, and
neither notes nor groups of exceptions are read. -/

namespace EventLog.Host

/-! ## Frames -/

/-- The line of the report for one frame. -/
def frameLine (f : Frame) : Text :=
  "  File \"" ++ f.file ++ "\", line " ++ (f.line.map Text.ofInt).getD "None" ++ ", in " ++ f.name
    ++ "\n"

/-- How many equal frames in a row are shown. -/
def shownRepeats : Nat := 3

/-- The line that counts the frames left out, if there are any. -/
def leftOut (n : Nat) : Text :=
  if n ≤ shownRepeats then []
  else
    let more := n - shownRepeats
    "  [Previous line repeated " ++ Text.ofNat more ++ " more time" ++ (if more = 1 then [] else ['s'])
      ++ "]\n"

/-- The lines of the frames that follow `n` frames equal to `last`. -/
def frameLines (last : Option Frame) (n : Nat) : List Frame → Text
  | [] => leftOut n
  | f :: rest =>
      let same := last.any fun g => g.file = f.file ∧ g.line = f.line ∧ g.name = f.name
      if same then (if n < shownRepeats then frameLine f else []) ++ frameLines (some f) (n + 1) rest
      else leftOut n ++ frameLine f ++ frameLines (some f) 1 rest

/-! ## Exceptions -/

/-- An exception as the host knows it. `origin` is the module of its class, `none` for a built-in class,
    and `trace` the frames it passed through, outermost first. -/
inductive Raised where
  | mk (cls : ExceptionClass) (origin message : Option Text) (trace : List Frame)
      (cause context : Option Raised) (contextHidden : Bool)

namespace Raised

/-- The name of a class with its module in front, except for a built-in class. -/
def qualifiedName (c : ExceptionClass) (origin : Option Text) : Text :=
  match origin with
  | none => c.name
  | some m => if m = "builtins" ∨ m = "__main__" then c.name else m ++ '.' :: c.name

/-- The last line of the report. -/
def lastLine (c : ExceptionClass) (origin message : Option Text) : Text :=
  let name := qualifiedName c origin
  if c.isKind .programText then
    let detail : Text := match message with
      | some (d :: m) => d :: m
      | _ => "<no detail available>"
    name ++ ": " ++ detail ++ "\n"
  else if (c.textOf message).isEmpty then name ++ "\n"
  else name ++ ": " ++ c.textOf message ++ "\n"

/-- The line above the frames. -/
def traceLine : Text :=
  "Traceback (most recent call last):\n"

/-- The report of the exception alone. -/
def ownReport : Raised → Text
  | mk c origin message trace .. =>
      (if trace.isEmpty then [] else traceLine ++ frameLines none 0 trace) ++ lastLine c origin message

/-- The line between an exception and the one it caused. -/
def causeLine : Text :=
  "\nThe above exception was the direct cause of the following exception:\n\n"

/-- The line between an exception and the one that was raised while it was handled. -/
def contextLine : Text :=
  "\nDuring handling of the above exception, another exception occurred:\n\n"

/-- The report with the exceptions that led to this one. A cause comes instead of a context. -/
def report : Raised → Text
  | e@(mk _ _ _ _ (some cause) _ _) => report cause ++ causeLine ++ ownReport e
  | e@(mk _ _ _ _ none (some context) false) => report context ++ contextLine ++ ownReport e
  | e => ownReport e

/-- The exception as it is attached to an event. -/
def toException : Raised → Exception
  | e@(mk c _ message trace ..) =>
      { Exception.ofMessage c message with report := if trace.isEmpty then none else some e.report }

end Raised
end EventLog.Host
