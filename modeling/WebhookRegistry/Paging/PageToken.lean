/-
  Page tokens: `<milliseconds>:<id>`, the place of the last item of the previous page.

  The milliseconds are those of the item's creation time, rounded down, and `0` for an item without one.
  Everything after the first colon belongs to the id, so an id may hold colons itself. Reading is more
  liberal than writing: the number may have a plus, zeros in front and digits of any script.
-/
import WebhookRegistry.Text.Numeral
import WebhookRegistry.Time.LogicalTime

namespace WebhookRegistry

/-- The place after which a page starts. -/
structure Cursor where
  time : LogicalTime
  id : String
  deriving Repr, Inhabited

namespace PageToken

/-- Why a page token names no place. -/
inductive Fault where
  | noSeparator
  | notMillis
  | outOfRange
  | tooManyDigits
  deriving DecidableEq, Repr

/-- The message for the client; a numeral too long to be read has none of its own. -/
def Fault.message : Fault → String
  | .noSeparator =>
    "Invalid pageToken format: pageToken must be in 'timestamp_millis:configId' format"
  | .notMillis => "Invalid pageToken format: timestamp must be numeric milliseconds"
  | .outOfRange => "Invalid pageToken format: timestamp is out of range"
  | .tooManyDigits => ""

/-! ## Writing -/

/-- The token of an item with a creation time and an id. -/
def encode (time : LogicalTime) (id : String) : String :=
  String.ofList (Text.integerText time.millis ++ ':' :: id.toList)

/-- The token of a cursor. -/
def ofCursor (cursor : Cursor) : String := encode cursor.time cursor.id

/-! ## Reading -/

/-- Whether a number fits in 64 bits with sign. -/
def fitsInt64 (n : Int) : Bool :=
  decide (-0x8000000000000000 ≤ n) && decide (n < 0x8000000000000000)

/-- The number in front of the colon: an optional sign and digits, nothing else. -/
def readMillis (cs : List Char) : Except Fault Int :=
  let (negative, digits) := Text.splitSign cs
  if digits.isEmpty || !digits.all Text.isDigit then .error .notMillis
  else if Text.maxDigits < digits.length then .error .tooManyDigits
  else
    let n := Text.signed negative (Text.digitsValue digits)
    if fitsInt64 n then .ok n else .error .notMillis

/-- Reads a token that is not empty. -/
def decodeChars (cs : List Char) : Except Fault Cursor :=
  match cs.dropWhile (· != ':') with
  | [] => .error .noSeparator
  | _ :: id =>
    match readMillis (cs.takeWhile (· != ':')) with
    | .error fault => .error fault
    | .ok n =>
      match LogicalTime.ofMillis? n with
      | none => .error .outOfRange
      | some time => .ok ⟨time, String.ofList id⟩

/-- Reads a token; without one, or with an empty one, there is no cursor. -/
def decode (token : Option String) : Except Fault (Option Cursor) :=
  match token with
  | none => .ok none
  | some text =>
    if text.isEmpty then .ok none
    else
      match decodeChars text.toList with
      | .ok cursor => .ok (some cursor)
      | .error fault => .error fault

/-- The empty token asks for the first page. -/
theorem decode_empty : decode (some "") = .ok none := rfl

end PageToken

end WebhookRegistry
