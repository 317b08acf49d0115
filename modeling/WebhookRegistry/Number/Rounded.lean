/-
  Decimal texts of a chosen precision.

  A number is rounded once, from its exact value, either to a number of places after the point or to a
  number of significant digits; a tie goes to the even last digit. The *fixed* style writes the places
  out, the *scientific* style has one digit before the point and an exponent, and the *general* style
  takes the one of the two that suits the size of the number and drops the zeros at the end.
-/
import WebhookRegistry.Number.Shortest

namespace WebhookRegistry.Binary64

/-! ## Rounding -/

/-- The digits of a whole number, with zeros in front up to a least count. -/
def filledDigits (count n : Nat) : List Char :=
  let digits := Nat.toDigits 10 n
  List.replicate (count - digits.length) '0' ++ digits

/-- The fraction `num / den` rounded to a number of places: its digits before and after the point. -/
def roundToPlaces (num den places : Nat) : List Char × List Char :=
  let digits := filledDigits (places + 1) (roundDiv (num * Nat.pow 10 places) den)
  (digits.take (digits.length - places), digits.drop (digits.length - places))

/-- The fraction `num / den` rounded to a number of significant digits: the digits, and the exponent of
    ten of the first one. Rounding up may give one digit more, a zero that is dropped. -/
def roundToDigits (num den count : Nat) : List Char × Int :=
  if num = 0 then (List.replicate count '0', 0)
  else
    let exponent := decimalExponent num den
    let (n, d) := inTens num den (exponent + 1 - count)
    let digits := Nat.toDigits 10 (roundDiv n d)
    (digits.take count, exponent + (digits.length - count))

/-! ## Styles -/

/-- A way to lay the digits of a number out. -/
inductive Style where
  | fixed
  | scientific
  | general
  deriving DecidableEq, Repr

/-- A style with its precision: places after the point, or significant digits in the general style. A
    full text keeps the point even if nothing follows it, and the zeros at the end. -/
structure Layout where
  style : Style
  precision : Nat
  full : Bool
  deriving DecidableEq, Repr

namespace Layout

/-- Digits before and after the point, put together. -/
def join (layout : Layout) (whole fraction : List Char) : List Char :=
  if fraction.isEmpty && !layout.full then whole else whole ++ '.' :: fraction

/-- The zeros at the end of a fraction are dropped unless the text is full. -/
def trimmed (layout : Layout) (fraction : List Char) : List Char :=
  if layout.full then fraction else (fraction.reverse.dropWhile (· == '0')).reverse

/-- The text of the fraction `num / den` in the general style: with an exponent from `10 ^ precision` on,
    and below `0.0001`. -/
def general (layout : Layout) (num den : Nat) : List Char :=
  let count := max 1 layout.precision
  let (digits, exponent) := roundToDigits num den count
  if exponent < -4 ∨ count ≤ exponent then
    layout.join (digits.take 1) (layout.trimmed (digits.drop 1)) ++ exponentText exponent
  else if exponent < 0 then
    layout.join ['0'] (layout.trimmed (List.replicate (exponent.natAbs - 1) '0' ++ digits))
  else
    let whole := exponent.toNat + 1
    layout.join (digits.take whole) (layout.trimmed (digits.drop whole))

/-- The text of the fraction `num / den`. -/
def fractionText (layout : Layout) (num den : Nat) : List Char :=
  match layout.style with
  | .fixed =>
    let (whole, fraction) := roundToPlaces num den layout.precision
    layout.join whole fraction
  | .scientific =>
    let (digits, exponent) := roundToDigits num den (layout.precision + 1)
    layout.join (digits.take 1) (digits.drop 1) ++ exponentText exponent
  | .general => layout.general num den

/-- The text of a number without its sign. -/
def magnitudeText (layout : Layout) : Binary64 → List Char
  | .nan => ['n', 'a', 'n']
  | .infinite _ => ['i', 'n', 'f']
  | .finite _ mantissa exponent =>
    let (num, den) := ratio mantissa exponent
    layout.fractionText num den

end Layout

end WebhookRegistry.Binary64
