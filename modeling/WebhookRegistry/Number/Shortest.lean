/-
  The shortest decimal text of a number of the 64-bit binary format.

  Every real number in a small interval around a finite number rounds to it. The text has the fewest
  digits with which some decimal lies in that interval, and among those the decimal nearest to the
  number. On a grid of a given number of digits only the two neighbours of the number can be nearest, so
  those two are tried, grid after grid.
-/
import WebhookRegistry.Number.Binary64

namespace WebhookRegistry.Binary64

/-! ## The digits -/

/-- A positive number with the interval that rounds to it, in quarters of the unit `2 ^ exponent`:
    `value` is the number, `below` and `above` are the distances to the ends. -/
structure Rounding where
  value : Nat
  below : Nat
  above : Nat
  closed : Bool
  exponent : Int

/-- The rounding interval of `mantissa * 2 ^ exponent`. The ends belong to it when the mantissa is
    even; below a power of two the grid is twice as fine. -/
def rounding (mantissa : Nat) (exponent : Int) : Rounding where
  value := 4 * mantissa
  below := if mantissa = Nat.pow 2 52 ∧ minExponent < exponent then 1 else 2
  above := 2
  closed := mantissa % 2 = 0
  exponent := exponent - 2

/-- Scale factors `(a, b)` with `x * 2 ^ exponent` compared to `y * 10 ^ power` as `x * a` to `y * b`. -/
def crossFactors (exponent power : Int) : Nat × Nat :=
  (Nat.pow 2 exponent.toNat * Nat.pow 10 (-power).toNat,
    Nat.pow 10 power.toNat * Nat.pow 2 (-exponent).toNat)

/-- Whether the decimal `coefficient * 10 ^ power` lies in the interval. -/
def Rounding.contains (r : Rounding) (power : Int) (coefficient : Nat) : Bool :=
  let (a, b) := crossFactors r.exponent power
  let low := (r.value - r.below) * a
  let high := (r.value + r.above) * a
  let x := coefficient * b
  if r.closed then decide (low ≤ x) && decide (x ≤ high) else decide (low < x) && decide (x < high)

/-- The decimal on the grid `10 ^ power` that lies in the interval, the nearer one if two do, and of two
    that are equally near the one with an even last digit. -/
def Rounding.onGrid? (r : Rounding) (power : Int) : Option Nat :=
  let (a, b) := crossFactors r.exponent power
  let lower := r.value * a / b
  let middle := (2 * lower + 1) * b
  let twice := 2 * (r.value * a)
  let upperNearer := decide (middle < twice) || (decide (middle = twice) && lower % 2 == 1)
  match r.contains power lower && decide (0 < lower), r.contains power (lower + 1) with
  | true, true => some (if upperNearer then lower + 1 else lower)
  | true, false => some lower
  | false, true => some (lower + 1)
  | false, false => none

/-- The number of digits before the point, or minus the number of zeros right behind it. -/
def Rounding.magnitude (r : Rounding) : Int :=
  let (num, den) := ratio r.value r.exponent
  decimalExponent num den + 1

/-- The first grid of `width`, `width + 1`, … digits with a hit: the coefficient and its power. -/
def Rounding.search (r : Rounding) (magnitude : Int) : Nat → Nat → Nat × Int
  | 0, width => (0, magnitude - width)
  | fuel + 1, width =>
    match r.onGrid? (magnitude - width) with
    | some coefficient => (coefficient, magnitude - width)
    | none => search r magnitude fuel (width + 1)

/-- The digits of a positive number, without zeros at the end, and the place of the decimal point
    counted from before the first digit. -/
def shortestDigits (mantissa : Nat) (exponent : Int) : List Char × Int :=
  let r := rounding mantissa exponent
  let (coefficient, power) := r.search r.magnitude 20 1
  let digits := Nat.toDigits 10 coefficient
  let kept := (digits.reverse.dropWhile (· == '0')).reverse
  (kept, digits.length + power)

/-! ## The text -/

/-- Digits with a point after `point` of them; the number stands without exponent. -/
def positional (digits : List Char) (point : Int) : List Char :=
  if point ≤ 0 then '0' :: '.' :: (List.replicate point.natAbs '0' ++ digits)
  else
    let whole := digits.take point.toNat
    let fraction := digits.drop point.toNat
    whole ++ List.replicate (point.toNat - whole.length) '0' ++
      '.' :: (if fraction.isEmpty then ['0'] else fraction)

/-- A decimal exponent with its mark and sign, of two digits at least. -/
def exponentText (exponent : Int) : List Char :=
  let digits := Nat.toDigits 10 exponent.natAbs
  'e' :: (if exponent < 0 then '-' else '+') :: (List.replicate (2 - digits.length) '0' ++ digits)

/-- Digits with a point after the first one and a decimal exponent. -/
def scientific (digits : List Char) (point : Int) : List Char :=
  let fraction := digits.drop 1
  digits.take 1 ++ (if fraction.isEmpty then [] else '.' :: fraction) ++ exponentText (point - 1)

/-- The text of a number: positional from `0.0001` up to below `10 ^ 16`, else with an exponent. -/
def text : Binary64 → String
  | .nan => "nan"
  | .infinite negative => if negative then "-inf" else "inf"
  | .finite negative mantissa exponent =>
    let body :=
      if mantissa = 0 then ['0', '.', '0']
      else
        let (digits, point) := shortestDigits mantissa exponent
        if -4 < point ∧ point ≤ 16 then positional digits point else scientific digits point
    String.ofList (if negative then '-' :: body else body)

end WebhookRegistry.Binary64
