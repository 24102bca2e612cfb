import EventLog.Callable
import EventLog.Table

set_option autoImplicit false

/-! # Frames of the call stack

Each call that is running has a frame with its variables. The frame of a log call is the innermost one
that does not run the code of the logger itself, and the method that makes the call is looked up by
the name of that code: first in the classes of the two variables that by custom hold the object or the
class of a method, and then among the variables of the module. So it is found only if it goes by that
name, and another function of the same name is taken for it. -/

namespace EventLog

/-- What a recorded call stack says of a frame. -/
structure Frame where
  file : Text
  line : Option Int
  /-- The name of the code, which is that of the function without its class. -/
  name : Text
  column : Option Int
deriving DecidableEq

/-- What a variable is bound to. The attributes are those of its class, or its own if it is one. -/
structure Thing where
  callable : Callable
  attributes : Table Text Callable

/-- The variables that are bound to something, by name. -/
abbrev Variables := Table Text Thing

/-- The frame of a call that is running. -/
structure ActiveFrame where
  summary : Frame
  /-- The name of the module whose code it runs, if the module has one. -/
  module : Option Text
  locals : Variables
  globals : Variables

namespace ActiveFrame

/-- The module of the logger. -/
def loggerModule : Text := "patternlog.logger"

/-- Whether the frame runs the code of the logger. -/
def isOwn (f : ActiveFrame) : Bool :=
  f.module == some loggerModule

/-- The frames from the one that makes a log call outwards, out of all frames, innermost first. -/
def callers (fs : List ActiveFrame) : List ActiveFrame :=
  fs.dropWhile isOwn

/-- The variables that may hold the owner of a method: the object or its class. -/
def ownerNames : List Text :=
  ["self", "cls"]

/-- The method that the owner of this name has for the code of the frame. -/
def methodOf? (f : ActiveFrame) (owner : Text) : Option Callable :=
  ((f.locals.get? owner).bind fun o => o.attributes.get? f.summary.name).filter (·.isCallable)

/-- The function of the module that has the name of the code. -/
def function? (f : ActiveFrame) : Option Callable :=
  ((f.globals.get? f.summary.name).map (·.callable)).filter (·.isCallable)

/-- Whether the code is no function with a name: a module, a comprehension, an anonymous function. -/
def isNameless (f : ActiveFrame) : Bool :=
  f.summary.name.head? == some '<'

/-- The method or function whose code the frame runs, as far as it can be found. -/
def method? (f : ActiveFrame) : Option Callable :=
  if f.isNameless then none
  else (ownerNames.findSome? f.methodOf?).or f.function?

end ActiveFrame
end EventLog
