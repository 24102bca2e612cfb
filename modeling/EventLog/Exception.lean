import EventLog.Text.Quoted

set_option autoImplicit false

/-! # Exceptions attached to events

An exception belongs to a class. All that matters of a class is its name and which of a few kinds it
is or derives from: the kinds that say of a source location that it is not known, and those whose
exceptions are shown or reported in a way of their own. A class that is not built in derives from the
classes it names as its bases, of which there may be several.

What an exception shows of itself is up to its class: a text, an expression, and the report of the
frames it passed through and of the exceptions that led to it, if it passed through a frame. -/

namespace EventLog

/-- A built-in class, or one of a library, that is treated in a way of its own. -/
inductive ExceptionKind where
  /-- A thing does not have an attribute. -/
  | attribute
  /-- A place is beyond the end of a list. -/
  | index
  /-- A value is not of the right type. -/
  | type
  /-- A value is of the right type and yet not right. -/
  | value
  /-- A mapping does not have a key. -/
  | key
  /-- There is a fault in program text. -/
  | programText
  /-- A text does not have the form of a document of settings. -/
  | document
deriving DecidableEq

/-- A class of exceptions: its name, and the kinds that it is or derives from. -/
structure ExceptionClass where
  name : Text
  kinds : List ExceptionKind
deriving DecidableEq

namespace ExceptionClass

/-- The kind of each built-in class that is of one. -/
def builtinKinds : List (Text × ExceptionKind) :=
  [("AttributeError", .attribute), ("IndexError", .index), ("TypeError", .type),
    ("ValueError", .value), ("UnicodeError", .value), ("UnicodeDecodeError", .value),
    ("UnicodeEncodeError", .value), ("UnicodeTranslateError", .value), ("KeyError", .key),
    ("SyntaxError", .programText), ("IndentationError", .programText), ("TabError", .programText)]

/-- The built-in class of that name. -/
def builtin (name : Text) : ExceptionClass :=
  ⟨name, (builtinKinds.lookup name).toList⟩

/-- A class with these bases. -/
def derived (name : Text) (bases : List ExceptionClass) : ExceptionClass :=
  ⟨name, bases.flatMap (·.kinds)⟩

/-- Whether the class is of the kind or derives from one that is. -/
def isKind (c : ExceptionClass) (k : ExceptionKind) : Bool :=
  c.kinds.contains k

/-- The kinds by which a source-location provider may say that it does not know. -/
def toleratedKinds : List ExceptionKind :=
  [.attribute, .index, .type, .value]

/-- Whether the exceptions of the class only say that a source location is not known. -/
def isTolerated (c : ExceptionClass) : Bool :=
  toleratedKinds.any c.isKind

/-- The text of an exception that was raised with this message, or with none: the message. A missing
    key is shown quoted, and a fault in program text says so if it has no message. -/
def textOf (c : ExceptionClass) : Option Text → Text
  | some m => if c.isKind .key then Text.quoted m else m
  | none => if c.isKind .programText then "None" else []

/-- A class is of the kinds of its bases. -/
theorem isKind_derived_iff (name : Text) (bases : List ExceptionClass) (k : ExceptionKind) :
    (derived name bases).isKind k = true ↔ ∃ c ∈ bases, c.isKind k = true := by
  simp [derived, isKind]

/-- A class is tolerated just if one of its bases is, whatever its own name is. -/
theorem isTolerated_derived_iff (name : Text) (bases : List ExceptionClass) :
    (derived name bases).isTolerated = true ↔ ∃ c ∈ bases, c.isTolerated = true := by
  simp only [isTolerated, List.any_eq_true, isKind_derived_iff]
  constructor
  · rintro ⟨k, hk, c, hc, h⟩
    exact ⟨c, hc, k, hk, h⟩
  · rintro ⟨c, hc, k, hk, h⟩
    exact ⟨k, hk, c, hc, h⟩

end ExceptionClass

/-- An exception that was raised. -/
structure Exception where
  cls : ExceptionClass
  text : Text
  /-- An expression that would make it, as it stands inside a list or a mapping. -/
  expression : Text
  /-- The report of its frames, missing if it passed through none. -/
  report : Option Text
deriving DecidableEq

namespace Exception

/-- The name of the class. -/
def name (e : Exception) : Text :=
  e.cls.name

/-- Whether the exception only says that a source location is not known. -/
def isTolerated (e : Exception) : Bool :=
  e.cls.isTolerated

/-- An exception that passed through no frame and is shown as those of the built-in classes are, by
    the message it was raised with. -/
def ofMessage (c : ExceptionClass) (message : Option Text) : Exception where
  cls := c
  text := c.textOf message
  expression := c.name ++ '(' :: ((message.map Text.quoted).getD [] ++ [')'])
  report := none

/-- An exception of a built-in class with a message and nothing else. -/
def simple (name message : Text) : Exception :=
  ofMessage (.builtin name) (some message)

end Exception
end EventLog
