import EventLog.Text

set_option autoImplicit false

/-! # Decimal numerals

Whole numbers are written with the digits 0 to 9, no leading zero, and a minus sign in front of a
negative one. `padLeft` brings a numeral to a least width. -/

namespace EventLog.Text

/-- The decimal numeral of a natural number. -/
def ofNat (n : Nat) : Text :=
  Nat.toDigits 10 n

/-- The decimal numeral of an integer. -/
def ofInt : Int → Text
  | .ofNat n => ofNat n
  | .negSucc n => '-' :: ofNat (n + 1)

/-- A numeral consists of digits. -/
theorem isDigit_of_mem_ofNat {n : Nat} {c : Char} (h : c ∈ ofNat n) : c.isDigit = true :=
  Nat.isDigit_of_mem_toDigits (by decide) (by decide) h

/-- The text with as many copies of `fill` in front as bring it to `width` characters. -/
def padLeft (fill : Char) (width : Nat) (t : Text) : Text :=
  List.replicate (width - t.length) fill ++ t

theorem length_padLeft (fill : Char) (width : Nat) (t : Text) :
    (padLeft fill width t).length = max width t.length := by
  simp only [padLeft, List.length_append, List.length_replicate]
  omega

/-- The numeral of `n` with zeros in front up to `width` digits. -/
def ofNatPadded (width n : Nat) : Text :=
  padLeft '0' width (ofNat n)

theorem isDigit_of_mem_ofNatPadded {width n : Nat} {c : Char} (h : c ∈ ofNatPadded width n) :
    c.isDigit = true := by
  rcases List.mem_append.1 h with h | h
  · rw [List.eq_of_mem_replicate h]
    rfl
  · exact isDigit_of_mem_ofNat h

end EventLog.Text
