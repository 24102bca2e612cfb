import EventLog.Double
import EventLog.Text.Decimal

set_option autoImplicit false

/-! # The shortest decimal of a double

A double stands for every number that rounds to it, and it is written with the fewest digits that
name one of them; among those the digits nearest to its exact value. With `n` digits the only
candidates are the two neighbours of the value on the grid of decimals with `n` digits, so the first
`n` for which one of the two lies in the interval gives the digits.

The written form has a point, and at least one digit after it, while the value is at least 0.0001
and has at most sixteen digits before the point; else one digit, the other digits after a point, and
an exponent of at least two digits with its sign. -/

namespace EventLog.Double

/-- The digits of a decimal and the place of its point: `0.d₁d₂…` times ten to the `point`. -/
structure Digits where
  digits : Nat
  point : Int

/-- The exact value `num / den` with the ends of the interval of numbers that round to it, all
    four times as large: `low / den` and `high / den`. The ends belong to it iff `closed`. -/
structure Interval where
  num : Nat
  den : Nat
  low : Nat
  high : Nat
  closed : Bool

/-- The interval of the double `m * 2 ^ e`; below a power of two the doubles lie twice as close. -/
def interval (m : Nat) (e : Int) : Interval :=
  let (unit, den) := fraction 1 e
  let below := if m = Nat.pow 2 52 && e != -1074 then 1 else 2
  { num := m * unit, den := den, low := (4 * m - below) * unit, high := (4 * m + 2) * unit,
    closed := m % 2 == 0 }

/-- Whether the decimal `d * 10 ^ k` rounds to the double of the interval. -/
def Interval.contains (i : Interval) (d : Nat) (k : Int) : Bool :=
  let value := 4 * d * Nat.pow 10 k.toNat * i.den
  let scale := Nat.pow 10 (-k).toNat
  if i.closed then i.low * scale ≤ value && value ≤ i.high * scale
  else i.low * scale < value && value < i.high * scale

/-- The number of digits before the point, or minus the number of zeros after it. -/
def Interval.point (i : Interval) : Int :=
  if i.den ≤ i.num then (Text.ofNat (i.num / i.den)).length
  else
    match (List.range 400).find? fun j => i.den ≤ i.num * Nat.pow 10 j with
    | some j => 1 - (j : Int)
    | none => 0

/-- The decimal with `n` digits that rounds to the double and is nearest to it. -/
def Interval.nearest? (i : Interval) (n : Nat) : Option (Nat × Int) :=
  let k := i.point - n
  let num := i.num * Nat.pow 10 (-k).toNat
  let den := i.den * Nat.pow 10 k.toNat
  let d := num / den
  match i.contains d k, i.contains (d + 1) k with
  | true, true => some (roundHalfEven num den, k)
  | true, false => some (d, k)
  | false, true => some (d + 1, k)
  | false, false => none

/-- The shortest decimal `d * 10 ^ k` of the double `m * 2 ^ e`, which is not zero. -/
def shortest (m : Nat) (e : Int) : Nat × Int :=
  let i := interval m e
  ((List.range 18).findSome? fun n => i.nearest? n).getD (i.num, 0)

/-- The decimal `d * 10 ^ k` in positional notation or with an exponent. -/
def written (d : Nat) (k : Int) : Text :=
  let digits := (Text.ofNat d).reverse.dropWhile (· = '0') |>.reverse
  let point : Int := (Text.ofNat d).length + k
  if 0 < point ∧ point ≤ 16 then
    let whole := digits.take point.toNat
    let rest := digits.drop point.toNat
    whole ++ List.replicate (point.toNat - digits.length) '0'
      ++ '.' :: (if rest.isEmpty then ['0'] else rest)
  else if -4 < point ∧ point ≤ 0 then
    '0' :: '.' :: (List.replicate (-point).toNat '0' ++ digits)
  else
    let exponent := point - 1
    let rest := digits.drop 1
    digits.take 1 ++ (if rest.isEmpty then [] else '.' :: rest) ++
      'e' :: (if exponent < 0 then '-' else '+') :: Text.ofNatPadded 2 exponent.natAbs

/-- The written form of a double. -/
def text (x : Float) : Text :=
  match magnitude x with
  | .undefined => "nan"
  | .infinite => if isNegative x then "-inf" else "inf"
  | .finite m e =>
      let body : Text := if m = 0 then "0.0" else
        let (d, k) := shortest m e
        written d k
      if isNegative x then '-' :: body else body

end EventLog.Double
