import EventLog.Text

set_option autoImplicit false

/-! # Upper-case spelling

Names of levels are compared in upper case. The names have unaccented letters only, so what matters
is which characters become such letters: the lower-case ones, the dotless i, the long s, the sharp s
and the ligatures of f and s, which become two or three letters. Any other character has no
unaccented upper case and is left alone. -/

namespace EventLog.Text

/-- The upper-case spelling of a character, as far as it has unaccented letters. -/
def upperChar (c : Char) : Text :=
  match c.toNat with
  | 0xDF => "SS"
  | 0x131 => "I"
  | 0x17F => "S"
  | 0xFB00 => "FF"
  | 0xFB01 => "FI"
  | 0xFB02 => "FL"
  | 0xFB03 => "FFI"
  | 0xFB04 => "FFL"
  | 0xFB05 => "ST"
  | 0xFB06 => "ST"
  | _ => [c.toUpper]

/-- The text in upper case. -/
def upper (t : Text) : Text :=
  t.flatMap upperChar

end EventLog.Text
