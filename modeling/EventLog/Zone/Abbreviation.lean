import EventLog.Text.Digit
import EventLog.Text.Word

set_option autoImplicit false

/-! # Abbreviations of zone names

A log line has room for a short zone name only. Three kinds of names are recognised inside the name
of a zone, as whole words: an abbreviation of three letters for one of five regions, the long name
for which such an abbreviation stands, and universal time with or without an offset of four digits.
The last recognised name is kept, and of it the capitals, the digits and the signs; so a long name
leaves its initials. -/

namespace EventLog.Zone

/-- The first words of long names. -/
def regions : List Text :=
  ["Pacific", "Mountain", "Central", "Eastern", "Atlantic"]

/-- The second words of long names. -/
def variants : List Text :=
  ["Standard", "Daylight", "Prevailing"]

/-- The long names: region, variant and the word for time. -/
def longNames : List Text :=
  regions.flatMap fun region => variants.map fun variant => region ++ ' ' :: (variant ++ " Time")

/-- The abbreviations of long names: the initials of region and variant, and a T. -/
def shortNames : List Text :=
  "PMCEA".toList.flatMap fun region => "SDP".toList.map fun variant => [region, variant, 'T']

/-- The names of universal time. -/
def universalNames : List Text :=
  ["GMT", "UTC"]

/-- The offset at the start of a text: a sign and four digits. -/
def offsetAt? : Text → Option Text
  | sign :: a :: b :: c :: d :: _ =>
      if (sign == '-' || sign == '+') && [a, b, c, d].all Text.isDecimalDigit then
        some [sign, a, b, c, d]
      else none
  | _ => none

/-- The names at the start of a text, a longer one before a shorter one. -/
def namesAt (t : Text) : List Text :=
  (shortNames ++ longNames).filter (·.isPrefixOf t)
    ++ (universalNames.filter (·.isPrefixOf t)).flatMap fun name =>
        match offsetAt? (t.drop name.length) with
        | some offset => [name ++ offset, name]
        | none => [name]

/-- The name that is a whole word at the start of a text; `before` is the character in front. -/
def nameAt? (before : Option Char) (t : Text) : Option Text :=
  (namesAt t).find? fun name =>
    Text.isBoundary before t.head? && Text.isBoundary name.getLast? (t.drop name.length).head?

/-- The recognised names from left to right, none overlapping another. `before` is the character in
    front of the text and `skip` the number of characters that belong to a name already found. -/
def namesFrom (before : Option Char) : Nat → Text → List Text
  | _, [] => []
  | skip + 1, c :: rest => namesFrom (some c) skip rest
  | 0, c :: rest =>
      match nameAt? before (c :: rest) with
      | some name => name :: namesFrom (some c) (name.length - 1) rest
      | none => namesFrom (some c) 0 rest

/-- Whether an abbreviation keeps the character. -/
def isKept (c : Char) : Bool :=
  c == '-' || c == '+' || Text.isDecimalDigit c || ('A' ≤ c && c ≤ 'Z')

/-- The abbreviation of a zone name; it is empty if nothing in the name is recognised. -/
def abbreviation (name : Text) : Text :=
  match (namesFrom none 0 name).getLast? with
  | some found => found.filter isKept
  | none => []

end EventLog.Zone
