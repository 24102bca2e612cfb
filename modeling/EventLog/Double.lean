set_option autoImplicit false

/-! # Double precision numbers as exact fractions

A finite double is a whole number times a power of two. Conversions to whole numbers are made on
that exact value: toward zero, or to the nearest whole number with a tie going to the even
neighbour. -/

namespace EventLog.Double

/-- What the bits of a double stand for, its sign aside; `finite m e` is `m * 2 ^ e`. -/
inductive Magnitude where
  | finite (mantissa : Nat) (exponent : Int)
  | infinite
  | undefined
deriving DecidableEq

/-- The magnitude of a double. -/
def magnitude (x : Float) : Magnitude :=
  let bits := x.toBits.toNat
  let fraction := bits % Nat.pow 2 52
  match bits / Nat.pow 2 52 % Nat.pow 2 11 with
  | 0 => .finite fraction (-1074)
  | 2047 => if fraction = 0 then .infinite else .undefined
  | k => .finite (fraction + Nat.pow 2 52) ((k : Int) - 1075)

/-- Whether the sign of a double is negative; zero and undefined numbers have a sign too. -/
def isNegative (x : Float) : Bool :=
  x.toBits.toNat / Nat.pow 2 63 == 1

/-- The quotient rounded to the nearest whole number, a tie to the even one. -/
def roundHalfEven (num den : Nat) : Nat :=
  let q := num / den
  let twice := 2 * (num % den)
  if twice < den then q
  else if den < twice then q + 1
  else q + q % 2

/-- Numerator and denominator of `m * 2 ^ e`. -/
def fraction (m : Nat) (e : Int) : Nat × Nat :=
  (m * Nat.pow 2 e.toNat, Nat.pow 2 (-e).toNat)

/-- The number with this sign and magnitude. -/
def signed (negative : Bool) (n : Nat) : Int :=
  if negative then -(n : Int) else n

/-- The whole number that is left when the places after the point are dropped. -/
def truncate? (x : Float) : Option Int :=
  match magnitude x with
  | .finite m e =>
      let (num, den) := fraction m e
      some (signed (isNegative x) (num / den))
  | _ => none

/-- The whole number that a double is equal to, if there is one. -/
def whole? (x : Float) : Option Int :=
  match magnitude x with
  | .finite m e =>
      let (num, den) := fraction m e
      if num % den = 0 then some (signed (isNegative x) (num / den)) else none
  | _ => none

/-- The nearest whole number, a tie to the even one. -/
def round? (x : Float) : Option Int :=
  match magnitude x with
  | .finite m e =>
      let (num, den) := fraction m e
      some (signed (isNegative x) (roundHalfEven num den))
  | _ => none

/-- The double next to the decimal `n * 10 ^ e`. A decimal beyond all finite doubles is infinite, and
    one below half of the least of them is zero. -/
def ofDecimal (n : Nat) (e : Int) : Float :=
  let point : Int := (Nat.toDigits 10 n).length + e
  if n = 0 ∨ point < -330 then 0.0
  else if 310 < point then 1.0 / 0.0
  else Float.ofScientific n (e < 0) e.natAbs

end EventLog.Double
