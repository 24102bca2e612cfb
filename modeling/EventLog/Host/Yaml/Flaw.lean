import EventLog.Exception

set_option autoImplicit false

/-! # Flaws of documents

The causes for which a document has no value. Most of them are faults of form; the others concern a
scalar whose form is right and which stands for nothing. The exception that the reader raises tells the
two apart. -/

namespace EventLog.Host.Yaml

/-- Why a document has no value. -/
inductive Flaw where
  /-- The text is no document, or not a single one. -/
  | malformed
  /-- A numeral names its base and has no digits. -/
  | noDigits
  /-- A decimal numeral has more digits than are read. -/
  | tooManyDigits
  /-- A character is given by a number that is too great; `wide` tells whether the number is even too
      great for 31 bits. -/
  | noSuchCharacter (wide : Bool)
  /-- A date or a time of day is not in the calendar. -/
  | noSuchDate
deriving DecidableEq

namespace Flaw

/-- The exception that the reader raises; what it says about the place is left out. -/
def toException : Flaw → Exception
  | malformed => .ofMessage ⟨"YAMLError", [.document]⟩ none
  | noSuchCharacter true => .ofMessage (.builtin "OverflowError") none
  | noDigits | tooManyDigits | noSuchCharacter false | noSuchDate =>
      .ofMessage (.builtin "ValueError") none

end Flaw

end EventLog.Host.Yaml
