/-
  Numbers of the 64-bit binary format, in exact integer arithmetic.

  A number written with a fraction or an exponent is held as the nearest number of the format, a tie
  going to the even mantissa. Nothing here rounds twice: `ofDecimal` divides once, with remainder, on the
  grid that the size of the number selects.
-/
namespace WebhookRegistry

/-- A number of the 64-bit binary format: a finite one is `mantissa * 2 ^ exponent`. -/
inductive Binary64 where
  | nan
  | infinite (negative : Bool)
  | finite (negative : Bool) (mantissa : Nat) (exponent : Int)
  deriving DecidableEq, Repr, Inhabited

namespace Binary64

/-! ## Rounding a decimal -/

/-- The least exponent of the format. -/
def minExponent : Int := -1074

/-- The quotient rounded to the nearest whole number, a tie to the even one. -/
def roundDiv (num den : Nat) : Nat :=
  let quotient := num / den
  let twice := 2 * (num % den)
  if twice < den then quotient
  else if den < twice then quotient + 1
  else quotient + quotient % 2

/-- The fraction `num / den` measured in units of `2 ^ exponent`, as a fraction again. -/
def inUnits (num den : Nat) (exponent : Int) : Nat × Nat :=
  if exponent < 0 then (num * Nat.pow 2 exponent.natAbs, den)
  else (num, den * Nat.pow 2 exponent.natAbs)

/-- The exponent at which the fraction `num / den` has a mantissa of 53 bits, or the least one. -/
def gridExponent (num den : Nat) : Int :=
  let guess : Int := (num.log2 : Int) - den.log2 - 52
  let (n, d) := inUnits num den guess
  let exponent := if n / d < Nat.pow 2 52 then guess - 1 else guess
  max exponent minExponent

/-- The number of the format nearest to `num / den`; beyond the largest one it is infinite. -/
def ofFraction (negative : Bool) (num den : Nat) : Binary64 :=
  let exponent := gridExponent num den
  let (n, d) := inUnits num den exponent
  let mantissa := roundDiv n d
  if exponent > 971 || (exponent == 971 && decide (Nat.pow 2 53 ≤ mantissa)) then .infinite negative
  else .finite negative mantissa exponent

/-- The number of decimal digits of a number. -/
def decimalWidth (n : Nat) : Nat := (Nat.toDigits 10 n).length

/-- The number of the format nearest to `coefficient * 10 ^ power`. A power that puts the number far
    outside the format's range is not expanded. -/
def ofDecimal (negative : Bool) (coefficient : Nat) (power : Int) : Binary64 :=
  if coefficient = 0 then .finite negative 0 minExponent
  else
    let size : Int := decimalWidth coefficient + power
    if 310 < size then .infinite negative
    else if size < -330 then .finite negative 0 minExponent
    else if power < 0 then ofFraction negative coefficient (Nat.pow 10 power.natAbs)
    else ofFraction negative (coefficient * Nat.pow 10 power.natAbs) 1

/-- The number of the format nearest to a whole number. -/
def ofInteger (n : Int) : Binary64 := ofFraction (decide (n < 0)) n.natAbs 1

/-! ## The decimal scale -/

/-- The fraction that `mantissa * 2 ^ exponent` is. -/
def ratio (mantissa : Nat) (exponent : Int) : Nat × Nat :=
  (mantissa * Nat.pow 2 exponent.toNat, Nat.pow 2 (-exponent).toNat)

/-- The fraction `num / den` measured in units of `10 ^ power`, as a fraction again. -/
def inTens (num den : Nat) (power : Int) : Nat × Nat :=
  (num * Nat.pow 10 (-power).toNat, den * Nat.pow 10 power.toNat)

/-- The exponent `e` with `10 ^ e ≤ num / den < 10 ^ (e + 1)` for a positive fraction. The widths of its
    two parts leave two candidates. -/
def decimalExponent (num den : Nat) : Int :=
  let larger : Int := (decimalWidth num : Int) - decimalWidth den
  let (n, d) := inTens num den larger
  if n < d then larger - 1 else larger

/-! ## Whole parts -/

/-- The whole number that a finite number equals, `none` when it has a fraction. -/
def whole? : Binary64 → Option Int
  | .finite negative mantissa exponent =>
    let magnitude : Option Nat :=
      if 0 ≤ exponent then some (mantissa * Nat.pow 2 exponent.natAbs)
      else if mantissa % Nat.pow 2 exponent.natAbs = 0 then
        some (mantissa / Nat.pow 2 exponent.natAbs)
      else none
    magnitude.map fun n => if negative then -(n : Int) else n
  | _ => none

/-- Whether a number has a minus sign; zero may have one. -/
def isNegative : Binary64 → Bool
  | .nan => false
  | .infinite negative => negative
  | .finite negative _ _ => negative

/-- Whether a number is finite. -/
def isFinite : Binary64 → Bool
  | .finite _ _ _ => true
  | _ => false

/-- A finite number without its fraction. -/
def truncated? : Binary64 → Option Int
  | .finite negative mantissa exponent =>
    let magnitude : Nat :=
      if 0 ≤ exponent then mantissa * Nat.pow 2 exponent.natAbs
      else mantissa / Nat.pow 2 exponent.natAbs
    some (if negative then -(magnitude : Int) else magnitude)
  | _ => none

end Binary64

end WebhookRegistry
