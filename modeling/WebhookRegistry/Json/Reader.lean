/-
  Reading JSON text.

  The grammar is the strict one: no comments, no commas at the end, no raw controls in strings, no
  surrogate escapes that stand alone. Beyond it `NaN`, `Infinity` and `-Infinity` are numbers. Two limits
  keep hostile text cheap: how deep containers nest, and how many digits the whole part of a number has.

  A reader of a piece takes the remaining text and gives the piece with what follows it. The readers of
  values call each other; `fuel` counts those calls, and twice the length of the text is more than enough
  because a value and a separator cost at least one character each.
-/
import WebhookRegistry.Json.Basic
import WebhookRegistry.Text.Numeral

namespace WebhookRegistry.Json

/-- Limits of a reader: how deep arrays and objects may nest, and how many digits the whole part of a
    number may have. -/
structure Limits where
  depth : Nat
  width : Nat
  deriving DecidableEq, Repr

/-- The limits for payloads. -/
def payloadLimits : Limits := ⟨200, Text.maxDigits⟩

/-- Skips the four blanks that may stand between tokens. -/
def skipBlanks (cs : List Char) : List Char :=
  cs.dropWhile fun c => c == ' ' || c == '\t' || c == '\n' || c == '\r'

/-- The rest of a text after a given word. -/
def word? : List Char → List Char → Option (List Char)
  | [], cs => some cs
  | w :: word, c :: cs => if w = c then word? word cs else none
  | _ :: _, [] => none

/-! ## Strings -/

/-- The value of a hexadecimal digit. -/
def hexValue? (c : Char) : Option Nat :=
  if '0' ≤ c ∧ c ≤ '9' then some (c.toNat - 0x30)
  else if 'a' ≤ c ∧ c ≤ 'f' then some (c.toNat - 0x57)
  else if 'A' ≤ c ∧ c ≤ 'F' then some (c.toNat - 0x37)
  else none

/-- The code unit that four hexadecimal digits denote. -/
def codeUnit? (a b c d : Char) : Option Nat := do
  let a ← hexValue? a
  let b ← hexValue? b
  let c ← hexValue? c
  let d ← hexValue? d
  return 4096 * a + 256 * b + 16 * c + d

/-- The character of an escape of one letter. -/
def shortEscape? : Char → Option Char
  | '"' => some '"'
  | '\\' => some '\\'
  | '/' => some '/'
  | 'b' => some '\x08'
  | 'f' => some '\x0c'
  | 'n' => some '\n'
  | 'r' => some '\r'
  | 't' => some '\t'
  | _ => none

/-- A piece of a string: a character, or a 16-bit code unit given by its number. -/
inductive Piece where
  | char (c : Char)
  | unit (n : Nat)
  deriving DecidableEq, Repr

/-- Puts a piece in front of the first part of a result. -/
def consPiece (piece : Piece) (result : List Piece × List Char) : List Piece × List Char :=
  (piece :: result.1, result.2)

/-- Reads the pieces of a string up to its closing quote; the opening one has been read. -/
def readPieces : List Char → Option (List Piece × List Char)
  | [] => none
  | '"' :: rest => some ([], rest)
  | '\\' :: 'u' :: a :: b :: c :: d :: rest =>
    match codeUnit? a b c d with
    | some n => (readPieces rest).map (consPiece (.unit n))
    | none => none
  | '\\' :: c :: rest =>
    match shortEscape? c with
    | some x => (readPieces rest).map (consPiece (.char x))
    | none => none
  | c :: rest =>
    if c.toNat < 0x20 then none else (readPieces rest).map (consPiece (.char c))

/-- Whether a code unit is the first half of a surrogate pair. -/
def isHighSurrogate (n : Nat) : Bool := decide (0xd800 ≤ n) && decide (n < 0xdc00)

/-- Whether a code unit is the second half of a surrogate pair. -/
def isLowSurrogate (n : Nat) : Bool := decide (0xdc00 ≤ n) && decide (n < 0xe000)

/-- The characters of the pieces; a surrogate needs its other half. -/
def assemble : List Piece → Option (List Char)
  | [] => some []
  | .char c :: rest => (assemble rest).map (c :: ·)
  | .unit high :: .unit low :: rest =>
    if isHighSurrogate high then
      if isLowSurrogate low then
        (assemble rest).map
          (Char.ofNat (0x10000 + 1024 * (high - 0xd800) + (low - 0xdc00)) :: ·)
      else none
    else if isLowSurrogate high then none
    else (assemble (.unit low :: rest)).map (Char.ofNat high :: ·)
  | .unit n :: rest =>
    if isHighSurrogate n || isLowSurrogate n then none
    else (assemble rest).map (Char.ofNat n :: ·)

/-- Reads a string up to its closing quote; the opening one has been read. -/
def readString (cs : List Char) : Option (List Char × List Char) :=
  match readPieces cs with
  | none => none
  | some (pieces, rest) => (assemble pieces).map fun text => (text, rest)

/-! ## Numbers -/

/-- Splits off the ASCII digits at the start. -/
def digitSpan (cs : List Char) : List Char × List Char :=
  (cs.takeWhile Char.isDigit, cs.dropWhile Char.isDigit)

/-- An optional fraction: its digits and the rest; a point needs a digit after it. -/
def readFraction : List Char → Option (Option (List Char) × List Char)
  | '.' :: rest =>
    let (digits, rest) := digitSpan rest
    if digits.isEmpty then none else some (some digits, rest)
  | cs => some (none, cs)

/-- An optional exponent and the rest; its mark needs a digit after the optional sign. -/
def readExponent : List Char → Option (Option Int × List Char)
  | c :: rest =>
    if c = 'e' ∨ c = 'E' then
      let (negative, rest) := Text.splitSign rest
      let (digits, rest) := digitSpan rest
      if digits.isEmpty then none
      else some (some (Text.signed negative (Nat.ofDigitChars 10 digits 0)), rest)
    else some (none, c :: rest)
  | [] => some (none, [])

/-- The number of a sign, whole digits, fraction and exponent. Without the last two it is an integer. -/
def numberOf (negative : Bool) (whole : List Char) (fraction : Option (List Char))
    (exponent : Option Int) : Json :=
  match fraction, exponent with
  | none, none => .int (Text.signed negative (Nat.ofDigitChars 10 whole 0))
  | _, _ =>
    let decimals := fraction.getD []
    .float (Binary64.ofDecimal negative (Nat.ofDigitChars 10 (whole ++ decimals) 0)
      (exponent.getD 0 - decimals.length))

/-- Reads the digits of a number after its optional minus. A zero stands alone before the point. -/
def readMagnitude (width : Nat) (negative : Bool) (cs : List Char) : Option (Json × List Char) :=
  match word? "Infinity".toList cs with
  | some rest => some (.float (.infinite negative), rest)
  | none =>
    let (whole, rest) := digitSpan cs
    if whole.isEmpty || (whole.head? == some '0' && decide (1 < whole.length)) ||
        decide (width < whole.length) then none
    else
      match readFraction rest with
      | none => none
      | some (fraction, rest) =>
        match readExponent rest with
        | none => none
        | some (exponent, rest) => some (numberOf negative whole fraction exponent, rest)

/-- Reads a value that is neither string nor container. -/
def readScalar (width : Nat) (cs : List Char) : Option (Json × List Char) :=
  match cs with
  | 'n' :: rest => (word? "ull".toList rest).map fun rest => (.null, rest)
  | 't' :: rest => (word? "rue".toList rest).map fun rest => (.bool true, rest)
  | 'f' :: rest => (word? "alse".toList rest).map fun rest => (.bool false, rest)
  | 'N' :: rest => (word? "aN".toList rest).map fun rest => (.float .nan, rest)
  | '-' :: rest => readMagnitude width true rest
  | cs => readMagnitude width false cs

/-! ## Values -/

mutual

/-- Reads a value that may hold containers nested `depth` deep. -/
def readValue (width : Nat) : Nat → Nat → List Char → Option (Json × List Char)
  | 0, _, _ => none
  | fuel + 1, depth, cs =>
    match skipBlanks cs with
    | '"' :: rest => (readString rest).map fun (s, rest) => (.str (String.ofList s), rest)
    | '[' :: rest =>
      if depth = 0 then none
      else
        match skipBlanks rest with
        | ']' :: rest => some (.arr [], rest)
        | rest => (readItems width fuel (depth - 1) rest).map fun (items, rest) => (.arr items, rest)
    | '\x7b' :: rest =>
      if depth = 0 then none
      else
        match skipBlanks rest with
        | '\x7d' :: rest => some (.obj [], rest)
        | rest => (readMembers width fuel (depth - 1) rest).map fun (ms, rest) => (.obj ms, rest)
    | cs => readScalar width cs

/-- Reads the items of an array up to its closing bracket, one at least. -/
def readItems (width : Nat) : Nat → Nat → List Char → Option (List Json × List Char)
  | 0, _, _ => none
  | fuel + 1, depth, cs =>
    match readValue width fuel depth cs with
    | none => none
    | some (x, rest) =>
      match skipBlanks rest with
      | ',' :: rest => (readItems width fuel depth rest).map fun (xs, rest) => (x :: xs, rest)
      | ']' :: rest => some ([x], rest)
      | _ => none

/-- Reads the members of an object up to its closing brace, one at least. -/
def readMembers (width : Nat) : Nat → Nat → List Char → Option (List (String × Json) × List Char)
  | 0, _, _ => none
  | fuel + 1, depth, cs =>
    match skipBlanks cs with
    | '"' :: rest =>
      match readString rest with
      | none => none
      | some (key, rest) =>
        match skipBlanks rest with
        | ':' :: rest =>
          match readValue width fuel depth rest with
          | none => none
          | some (x, rest) =>
            match skipBlanks rest with
            | ',' :: rest =>
              (readMembers width fuel depth rest).map fun (ms, rest) =>
                ((String.ofList key, x) :: ms, rest)
            | '\x7d' :: rest => some ([(String.ofList key, x)], rest)
            | _ => none
        | _ => none
    | _ => none

end

/-- Reads a text that is one value, within limits. -/
def parseWithin? (limits : Limits) (text : String) : Option Json :=
  let cs := text.toList
  match readValue limits.width (2 * cs.length + 2) limits.depth cs with
  | some (v, rest) => if (skipBlanks rest).isEmpty then some v else none
  | none => none

/-- Reads a payload that is one value. -/
def parse? (text : String) : Option Json := parseWithin? payloadLimits text

end WebhookRegistry.Json
