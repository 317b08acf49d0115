/-
  Messages made from a template and arguments.

  In a template a percent sign starts a conversion: flags, a width, a precision and a letter that says how
  the next argument is written. A single argument that is an object may also be asked for by keys in
  parentheses. The arguments must fit: one that is missing, left over or of the wrong type makes the
  message fail, and so does one that has no text or is an integer too long to be written in decimal.
  Without any argument the template is the message.
-/
import WebhookRegistry.Json.Display
import WebhookRegistry.Number.Rounded

namespace WebhookRegistry.Template

/-! ## Conversions -/

/-- How far the reading of a conversion has come. -/
inductive Stage where
  | start
  | flags
  | width
  | afterWidth
  | point
  | precision
  | afterPrecision
  | size
  deriving DecidableEq, Repr

/-- What a conversion asks for, as far as it has been read. -/
structure Conversion where
  stage : Stage := .start
  key : Option (List Char) := none
  left : Bool := false
  zeros : Bool := false
  plus : Bool := false
  blank : Bool := false
  alternate : Bool := false
  width : Nat := 0
  precision : Option Nat := none
  deriving Repr

/-- A text padded with blanks to the width of a conversion. -/
def Conversion.pad (c : Conversion) (text : List Char) : List Char :=
  let blanks := List.replicate (c.width - text.length) ' '
  if c.left then text ++ blanks else blanks ++ text

/-- A text cut to the precision and padded to the width of a conversion. -/
def Conversion.cut (c : Conversion) (text : String) : List Char :=
  let cs := text.toList
  c.pad (match c.precision with
    | some n => cs.take n
    | none => cs)

/-- The sign in front of a number. -/
def Conversion.sign (c : Conversion) (negative : Bool) : List Char :=
  if negative then ['-'] else if c.plus then ['+'] else if c.blank then [' '] else []

/-- The body of a number behind its sign and the mark of its base, padded to the width of a conversion:
    with zeros between mark and body if the conversion asks for them, else with blanks. -/
def Conversion.signed (c : Conversion) (negative : Bool) (mark body : List Char) : List Char :=
  let front := c.sign negative ++ mark
  if c.zeros && !c.left then
    front ++ (List.replicate (c.width - (front.length + body.length)) '0' ++ body)
  else c.pad (front ++ body)

/-- A whole number with the mark and the digits of its base; the precision is the least count of
    digits. -/
def Conversion.integer (c : Conversion) (n : Int) (mark digits : List Char) : List Char :=
  c.signed (decide (n < 0)) (if c.alternate then mark else [])
    (List.replicate (c.precision.getD 0 - digits.length) '0' ++ digits)

/-- A number with a fraction, to six digits unless a precision is given. -/
def Conversion.real (c : Conversion) (style : Binary64.Style) (upper : Bool) (x : Binary64) :
    List Char :=
  let body := Binary64.Layout.magnitudeText ⟨style, c.precision.getD 6, c.alternate⟩ x
  c.signed x.isNegative [] (if upper then body.map Char.toUpper else body)

/-- The whole number that an argument stands for; only decimal conversions take one with a fraction. -/
def wholeOf? (decimal : Bool) : Json → Option Int
  | .int n => some n
  | .bool b => some (if b then 1 else 0)
  | .float x => if decimal then x.truncated? else none
  | _ => none

/-- The number that an argument stands for where a fraction is asked for. A whole number beyond the range
    of the format does not fit. -/
def realOf? : Json → Option Binary64
  | .float x => some x
  | .int n => if (Binary64.ofInteger n).isFinite then some (Binary64.ofInteger n) else none
  | .bool b => some (Binary64.ofInteger (if b then 1 else 0))
  | _ => none

/-- The character of a code point. -/
def characterAt? (point : Int) : Option Char :=
  if 0 ≤ point ∧ point.toNat.isValidChar then some (Char.ofNat point.toNat) else none

/-- The character that an argument stands for: a text of one character, or a code point. -/
def characterOf? (v : Json) : Option Char :=
  match v with
  | .str s =>
    match s.toList with
    | [c] => some c
    | _ => none
  | v => (wholeOf? false v).bind characterAt?

/-- A whole number in decimal, unless it is too long. -/
def Conversion.decimal? (c : Conversion) (n : Int) : Option (List Char) :=
  if Text.isShort n then some (c.integer n [] (Nat.toDigits 10 n.natAbs)) else none

/-- Writes an argument as the letter of a conversion says, with room for so many values inside it. -/
def Conversion.write? (room : Nat) (c : Conversion) (letter : Char) (v : Json) : Option (List Char) :=
  match letter with
  | 's' => (v.text room).toOption.map c.cut
  | 'r' => (v.quotedText (room + 1)).toOption.map c.cut
  | 'a' => (v.quotedText (room + 1)).toOption.map fun text => c.cut (Text.asciiOnly text)
  | 'c' => (characterOf? v).map fun x => c.pad [x]
  | 'd' => (wholeOf? true v).bind c.decimal?
  | 'i' => (wholeOf? true v).bind c.decimal?
  | 'u' => (wholeOf? true v).bind c.decimal?
  | 'o' => (wholeOf? false v).map fun n => c.integer n ['0', 'o'] (Nat.toDigits 8 n.natAbs)
  | 'x' => (wholeOf? false v).map fun n => c.integer n ['0', 'x'] (Nat.toDigits 16 n.natAbs)
  | 'X' =>
    (wholeOf? false v).map fun n =>
      c.integer n ['0', 'X'] ((Nat.toDigits 16 n.natAbs).map Char.toUpper)
  | 'f' => (realOf? v).map (c.real .fixed false)
  | 'F' => (realOf? v).map (c.real .fixed true)
  | 'e' => (realOf? v).map (c.real .scientific false)
  | 'E' => (realOf? v).map (c.real .scientific true)
  | 'g' => (realOf? v).map (c.real .general false)
  | 'G' => (realOf? v).map (c.real .general true)
  | _ => none

/-! ## Templates -/

/-- The arguments that are left: those by position and, for a single object, its members. -/
structure Arguments where
  positional : List Json
  members : Option (List (String × Json))

/-- The arguments of a call. -/
def Arguments.of : List Json → Arguments
  | [.obj members] =>
    ⟨[.obj members], if members.isEmpty then none else some members⟩
  | args => ⟨args, none⟩

/-- The largest width and the largest precision. -/
def maxCount : Nat := 0x7fffffff

/-- The next argument, if it is a whole number for a width or a precision. -/
def Arguments.star? (args : Arguments) : Option (Int × Arguments) :=
  match args.positional with
  | v :: rest =>
    match wholeOf? false v with
    | some n => if n.natAbs ≤ maxCount then some (n, { args with positional := rest }) else none
    | none => none
  | [] => none

/-- A count with one more digit behind it, unless it gets too large. -/
def extendCount? (count : Nat) (digit : Char) : Option Nat :=
  let longer := 10 * count + (digit.toNat - '0'.toNat)
  if longer ≤ maxCount then some longer else none

/-- One more character of a conversion that is not its letter. -/
def Conversion.extend? (c : Conversion) (args : Arguments) (x : Char) :
    Option (Conversion × Arguments) :=
  let early := c.stage = .start ∨ c.stage = .flags
  if early ∧ x = '-' then some ({ c with stage := .flags, left := true }, args)
  else if early ∧ x = '+' then some ({ c with stage := .flags, plus := true }, args)
  else if early ∧ x = ' ' then some ({ c with stage := .flags, blank := true }, args)
  else if early ∧ x = '#' then some ({ c with stage := .flags, alternate := true }, args)
  else if early ∧ x = '0' then some ({ c with stage := .flags, zeros := true }, args)
  else if (early ∨ c.stage = .width) ∧ x.isDigit then
    (extendCount? c.width x).map fun n => ({ c with stage := .width, width := n }, args)
  else if early ∧ x = '*' then
    args.star?.map fun (n, args) =>
      ({ c with stage := .afterWidth, width := n.natAbs, left := c.left || decide (n < 0) }, args)
  else if (early ∨ c.stage = .width ∨ c.stage = .afterWidth) ∧ x = '.' then
    some ({ c with stage := .point, precision := some 0 }, args)
  else if (c.stage = .point ∨ c.stage = .precision) ∧ x.isDigit then
    (extendCount? (c.precision.getD 0) x).map fun n =>
      ({ c with stage := .precision, precision := some n }, args)
  else if c.stage = .point ∧ x = '*' then
    args.star?.map fun (n, args) =>
      ({ c with stage := .afterPrecision, precision := some n.toNat }, args)
  else if c.stage ≠ .size ∧ (x = 'h' ∨ x = 'l' ∨ x = 'L') then
    some ({ c with stage := .size }, args)
  else none

/-- The argument of a conversion and the arguments left after it. -/
def Arguments.next? (args : Arguments) (key : Option (List Char)) : Option (Json × Arguments) :=
  match key with
  | some key =>
    match args.members with
    | none => none
    | some members =>
      (Json.lookup (String.ofList key) members).map fun v => (v, { args with positional := [] })
  | none =>
    match args.positional with
    | [] => none
    | v :: rest => some (v, { args with positional := rest })

/-- Where the reading of a template stands: in its text, in the key of a conversion, with the depth of
    parentheses, or in the rest of a conversion. -/
inductive Place where
  | text
  | key (depth : Nat) (read : List Char)
  | conversion (c : Conversion)

/-- Fills a template in from a place on. -/
def fillFrom (room : Nat) : Place → Arguments → List Char → Option (List Char)
  | .text, args, [] =>
    if args.positional.isEmpty || args.members.isSome then some [] else none
  | _, _, [] => none
  | .text, args, x :: rest =>
    if x = '%' then fillFrom room (.conversion { stage := .start }) args rest
    else (fillFrom room .text args rest).map (x :: ·)
  | .key depth read, args, x :: rest =>
    if x = ')' then
      match depth with
      | 0 => fillFrom room (.conversion { stage := .flags, key := some read.reverse }) args rest
      | depth + 1 => fillFrom room (.key depth (x :: read)) args rest
    else if x = '(' then fillFrom room (.key (depth + 1) (x :: read)) args rest
    else fillFrom room (.key depth (x :: read)) args rest
  | .conversion c, args, x :: rest =>
    if c.stage = .start ∧ x = '(' then fillFrom room (.key 0 []) args rest
    else
      match c.extend? args x with
      | some (c, args) => fillFrom room (.conversion c) args rest
      | none =>
        if c.stage = .start ∧ x = '%' then (fillFrom room .text args rest).map (x :: ·)
        else
          match args.next? c.key with
          | none => none
          | some (v, args) =>
            match c.write? room x v with
            | none => none
            | some text => (fillFrom room .text args rest).map (text ++ ·)

/-- The message of a template with arguments, `none` if they do not fit or have no text. -/
def message? (room : Nat) (template : Json) (args : List Json) : Option String :=
  match template.text room with
  | .error _ => none
  | .ok text =>
    if args.isEmpty then some text
    else (fillFrom room .text (Arguments.of args) text.toList).map String.ofList

end WebhookRegistry.Template
