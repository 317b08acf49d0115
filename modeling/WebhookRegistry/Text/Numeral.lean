/-
  Whole numbers written as text.

  Two forms are read here. A *setting* is what an operator types: blanks around it do not count, the
  digits may be of any script and single underscores may stand between them. A *field* is what a client
  sends in place of a number: the digits are ASCII, and a fraction of zeros may follow. In a field, zeros
  in front do not count, nor do underscores among them; what follows those zeros is a numeral again, so it
  may have a minus of its own if the field has none. Both forms refuse a numeral of more than `maxDigits`
  digits, so that reading stays cheap.
-/
import WebhookRegistry.Text.Digit
import WebhookRegistry.Text.Blank

namespace WebhookRegistry.Text

/-- The longest numeral that is read as a number, and the longest that is written. -/
def maxDigits : Nat := 4300

/-! ## Pieces of a numeral -/

/-- Splits an optional sign off; the first part tells whether it is a minus. -/
def splitSign : List Char → Bool × List Char
  | '-' :: rest => (true, rest)
  | '+' :: rest => (false, rest)
  | cs => (false, cs)

/-- The whole number of a given sign and magnitude. -/
def signed (negative : Bool) (magnitude : Nat) : Int :=
  if negative then -(magnitude : Int) else magnitude

/-- The decimal text of a whole number. -/
def integerText (n : Int) : List Char :=
  if n < 0 then '-' :: Nat.toDigits 10 n.natAbs else Nat.toDigits 10 n.natAbs

/-- Whether a whole number is short enough to be written in decimal. -/
def isShort (n : Int) : Bool := decide ((Nat.toDigits 10 n.natAbs).length ≤ maxDigits)

/-- The digits of a group written with single underscores between digits; `none` when the text is
    empty, has another character, or an underscore that does not stand between two digits. -/
def groupedDigits? (digit : Char → Bool) : List Char → Option (List Char)
  | [] => none
  | [c] => if digit c then some [c] else none
  | c :: '_' :: rest => if digit c then (groupedDigits? digit rest).map (c :: ·) else none
  | c :: rest => if digit c then (groupedDigits? digit rest).map (c :: ·) else none

/-! ## The two forms -/

/-- Reads a setting, `none` when it is no numeral or has more than `maxDigits` digits. -/
def settingValue? (text : String) : Option Int :=
  let (negative, body) := splitSign (trim text.toList)
  match groupedDigits? isDigit body with
  | none => none
  | some digits =>
    if digits.length ≤ maxDigits then some (signed negative (digitsValue digits)) else none

/-- Why a text is not accepted in place of a whole number. -/
inductive NumeralFault where
  | tooLong
  | malformed
  deriving DecidableEq, Repr

/-- The digits with which a text starts, after a minus if there is one. Digits that start with a zero
    are none, since they may go on behind an underscore. -/
def leadingDigits (text : List Char) : List Char :=
  let body :=
    match text with
    | '-' :: rest => rest
    | cs => cs
  if body.head? = some '0' then [] else body.takeWhile Char.isDigit

/-- What is left behind zeros in front, and behind underscores among them; `last` is the character
    dropped last, which stays if a point or nothing at all follows. -/
def afterZeros? (last : Char) : List Char → Option (List Char)
  | [] => some [last]
  | c :: rest =>
    if c = '0' ∨ c = '_' then afterZeros? c rest
    else if c.isDigit ∨ c = '-' then some (c :: rest)
    else if c = '.' then some (last :: c :: rest)
    else none

/-- A numeral without zeros in front; it has to start with a digit. -/
def dropZeros? : List Char → Option (List Char)
  | '0' :: rest => afterZeros? '0' rest
  | c :: rest => if c.isDigit then some (c :: rest) else none
  | [] => none

/-- Splits off the minus that may follow zeros in front, and one underscore behind it. -/
def splitMinus : List Char → Bool × List Char
  | '-' :: '_' :: rest => (true, rest)
  | '-' :: rest => (true, rest)
  | cs => (false, cs)

/-- Whether the text after the digits of a field is empty or a fraction of zeros. -/
def isZeroFraction : List Char → Bool
  | [] => true
  | '.' :: zeros => !zeros.isEmpty && zeros.all (· == '0')
  | _ => false

/-- The digits of a numeral without zeros in front: grouped, perhaps with a fraction of zeros, and with
    no more than one zero at the start. -/
def wholeDigits? (cs : List Char) : Option (List Char) :=
  if isZeroFraction (cs.dropWhile (· != '.')) then
    match groupedDigits? Char.isDigit (cs.takeWhile (· != '.')) with
    | some ('0' :: _ :: _) => none
    | digits? => digits?
  else none

/-- The sign and the digits of a field, `none` if it is no numeral. -/
def fieldDigits? (text : List Char) : Option (Bool × List Char) :=
  let (negative, body) := splitSign (trim text)
  match dropZeros? body with
  | none => none
  | some numeral =>
    let (inner, numeral) := splitMinus numeral
    if negative && inner then none
    else (wholeDigits? numeral).map fun digits => (negative || inner, digits)

/-- Reads a field. One that starts with too many digits is too long, whatever follows them. -/
def fieldValue (text : String) : Except NumeralFault Int :=
  if maxDigits < (leadingDigits text.toList).length then .error .tooLong
  else
    match fieldDigits? text.toList with
    | none => .error .malformed
    | some (negative, digits) =>
      if digits.length ≤ maxDigits then .ok (signed negative (digitsValue digits))
      else .error .malformed

end WebhookRegistry.Text
