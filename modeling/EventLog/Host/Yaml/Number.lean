import EventLog.Double
import EventLog.Text
import EventLog.Host.Yaml.Flaw

set_option autoImplicit false

/-! # Numbers in a document

A plain scalar of the form of a number stands for it. Whole numbers are written in base two, eight,
ten, sixteen or sixty, others with a point, perhaps with an exponent or in base sixty. Low lines may
stand between digits and do not count, so a form can be met without any digit, which is a flaw. The
readers return nothing for a text that has not the form. -/

namespace EventLog.Host.Yaml.Number

/-! ## Digits -/

/-- The value of a hexadecimal digit; another character counts nothing. -/
def digit (c : Char) : Nat :=
  if '0' ≤ c ∧ c ≤ '9' then c.toNat - 48
  else if 'a' ≤ c ∧ c ≤ 'f' then c.toNat - 87
  else if 'A' ≤ c ∧ c ≤ 'F' then c.toNat - 55
  else 0

/-- Whether the character is a hexadecimal digit. -/
def isHexDigit (c : Char) : Bool :=
  c.isDigit || ('a' ≤ c && c ≤ 'f') || ('A' ≤ c && c ≤ 'F')

/-- The text without low lines. -/
def digitsOf (t : Text) : Text :=
  t.filter (· ≠ '_')

/-- The number that digits stand for in a base. -/
def inBase (base : Nat) (t : Text) : Nat :=
  t.foldl (fun n c => n * base + digit c) 0

/-- The greatest number of digits of a decimal numeral. -/
def maxDigits : Nat := 4300

/-- The number of a decimal numeral. -/
def decimal (t : Text) : Except Flaw Nat :=
  if maxDigits < t.length then .error .tooManyDigits else .ok (inBase 10 t)

/-- The number of a numeral behind the mark of its base. -/
def behindMark (base : Nat) (t : Text) : Except Flaw Nat :=
  if t.isEmpty then .error .noDigits else .ok (inBase base t)

/-- Whether the text is a part of a numeral in base sixty, but not the first: a number below sixty. -/
def isSixtieth : Text → Bool
  | [c] => c.isDigit
  | [b, c] => '0' ≤ b && b ≤ '5' && c.isDigit
  | _ => false

/-- Whether the text is a digit, followed by digits and low lines. -/
def isNumeral : Text → Bool
  | c :: t => c.isDigit && t.all fun d => d.isDigit || d == '_'
  | [] => false

/-- A text without a sign at its start, and whether the sign is a minus. -/
def unsigned : Text → Bool × Text
  | '-' :: t => (true, t)
  | '+' :: t => (false, t)
  | t => (false, t)

/-! ## Whole numbers -/

/-- The number of the parts of a numeral in base sixty. -/
def sexagesimal (first : Text) (parts : List Text) : Except Flaw Nat := do
  let n ← decimal (digitsOf first)
  .ok (parts.foldl (fun n part => n * 60 + inBase 10 part) n)

/-- The whole number that an unsigned numeral stands for. -/
def natural? : Text → Option (Except Flaw Nat)
  | ['0'] => some (.ok 0)
  | '0' :: 'b' :: c :: t =>
      if (c :: t).all fun d => d == '0' || d == '1' || d == '_' then
        some (behindMark 2 (digitsOf (c :: t)))
      else none
  | '0' :: 'x' :: c :: t =>
      if (c :: t).all fun d => isHexDigit d || d == '_' then some (behindMark 16 (digitsOf (c :: t)))
      else none
  | '0' :: t =>
      if t.all fun d => ('0' ≤ d && d ≤ '7') || d == '_' then some (.ok (inBase 8 (digitsOf t)))
      else none
  | t =>
      let (first, parts) := Text.cut ':' t
      if isNumeral first && parts.all isSixtieth then some (sexagesimal first parts) else none

/-- The whole number that a numeral stands for. -/
def integer? (t : Text) : Option (Except Flaw Int) :=
  let (negative, t) := unsigned t
  (natural? t).map fun r => r.map (Double.signed negative)

/-! ## Numbers with a point -/

/-- The exponent behind the digits: a letter, a sign and digits, or nothing. -/
def exponent? : Text → Option Int
  | [] => some 0
  | e :: sign :: c :: t =>
      if (e == 'e' || e == 'E') && (sign == '-' || sign == '+') && (c :: t).all Char.isDigit then
        some (Double.signed (sign == '-') (inBase 10 (c :: t)))
      else none
  | _ => none

/-- The double next to a decimal with these digits before and after its point. -/
def ofPlaces (whole places : Text) (exponent : Int) : Float :=
  Double.ofDecimal (inBase 10 (whole ++ places)) (exponent - places.length)

/-- The double of a numeral with a point; without a digit before the point there is no sign. -/
def pointed? (isSigned : Bool) (whole rest : Text) : Option Float :=
  let places := rest.takeWhile fun c => c.isDigit || c == '_'
  let isForm := if whole.isEmpty then !isSigned && isNumeral places else isNumeral whole
  match isForm, exponent? (rest.drop places.length) with
  | true, some e => some (ofPlaces (digitsOf whole) (digitsOf places) e)
  | _, _ => none

/-- The double of the parts of a numeral in base sixty, the last of which has a point. -/
def pointedSexagesimal (parts : List Text) (last : Float) : Float :=
  let (sum, _) := parts.foldr (fun part (sum, base) =>
    (sum + Double.ofDecimal (inBase 10 part) 0 * Float.ofNat base, base * 60)) (0.0 + last, 60)
  sum

/-- The double that an unsigned numeral stands for. -/
def magnitude? (isSigned : Bool) (t : Text) : Option Float :=
  if t = ".inf" ∨ t = ".Inf" ∨ t = ".INF" then some (1.0 / 0.0)
  else if !isSigned ∧ (t = ".nan" ∨ t = ".NaN" ∨ t = ".NAN") then some (0.0 / 0.0)
  else
    let whole := t.takeWhile (· ≠ '.')
    match t.drop whole.length with
    | [] => none
    | _ :: rest =>
        match Text.cut ':' whole with
        | (_, []) => pointed? isSigned whole rest
        | (first, parts) =>
            if isNumeral first && parts.all isSixtieth && rest.all fun c => c.isDigit || c == '_' then
              let last := ofPlaces (parts.getLastD []) (digitsOf rest) 0
              some (pointedSexagesimal (digitsOf first :: parts.dropLast) last)
            else none

/-- The number with a point that a numeral stands for. -/
def float? (t : Text) : Option Float :=
  let (negative, u) := unsigned t
  (magnitude? (u.length < t.length) u).map fun x => if negative then -x else x

end EventLog.Host.Yaml.Number
