import EventLog.Text.Printable

set_option autoImplicit false

/-! # Quoted text

A text inside a notice or a list is shown between quotes. Single quotes are used, but double quotes
when that saves escaping: the text has a single quote and no double one. The quote in use and the
backslash are escaped, line feed, tab and carriage return have short names, and any other character
that is not printable is shown by its number. -/

namespace EventLog.Text

/-- The lower-case hexadecimal numeral of `n`, at least `width` digits long. -/
def hex (width n : Nat) : Text :=
  List.replicate (width - (Nat.toDigits 16 n).length) '0' ++ Nat.toDigits 16 n

/-- The quote that a text is shown between. -/
def quoteFor (t : Text) : Char :=
  if t.contains '\x27' && !t.contains '"' then '"' else '\x27'

/-- How a character is shown between quotes `q`. -/
def escapeChar (q c : Char) : Text :=
  if c = q ∨ c = '\\' then ['\\', c]
  else if c = '\n' then ['\\', 'n']
  else if c = '\t' then ['\\', 't']
  else if c = '\r' then ['\\', 'r']
  else if isPrintable c then [c]
  else if c.toNat < 0x100 then '\\' :: 'x' :: hex 2 c.toNat
  else if c.toNat < 0x10000 then '\\' :: 'u' :: hex 4 c.toNat
  else '\\' :: 'U' :: hex 8 c.toNat

/-- The text between quotes. -/
def quoted (t : Text) : Text :=
  let q := quoteFor t
  q :: (t.flatMap (escapeChar q) ++ [q])

end EventLog.Text
