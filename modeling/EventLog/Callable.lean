import EventLog.Text

set_option autoImplicit false

/-! # What makes a log call

A log call is made by a function or a method, or by something that is not known. It is shown by its
qualified name, else by its plain name; something that cannot be called, and a function without a
name of its own, is anonymous. -/

namespace EventLog

/-- Something that may be callable and may have names. -/
structure Callable where
  isCallable : Bool
  qualifiedName : Option Text
  plainName : Option Text
deriving DecidableEq

namespace Callable

/-- Something that cannot be called. -/
def nobody : Callable := ⟨false, none, none⟩

/-- What is shown for something without a name. -/
def anonymous : Text := "anonymous"

/-- The name that a function has if it was given none. -/
def unnamed : Text := "<lambda>"

/-- The qualified name, or else the plain one; an empty name does not count. -/
def givenName (c : Callable) : Text :=
  match c.qualifiedName with
  | some (x :: name) => x :: name
  | _ => c.plainName.getD []

/-- The name that is shown. -/
def name (c : Callable) : Text :=
  if !c.isCallable || c.givenName.isEmpty || unnamed.isSuffixOf c.givenName then anonymous
  else c.givenName

end Callable
end EventLog
