/-
  Compact JSON text.

  No blank stands between tokens and members keep their order. In a string the quote, the backslash and
  the controls below U+0020 are escaped, a control by its short form where it has one; every other
  character stands for itself.
-/
import WebhookRegistry.Json.Basic
import WebhookRegistry.Number.Shortest
import WebhookRegistry.Text.Numeral

namespace WebhookRegistry.Json

/-! ## Strings -/

/-- How one character is written inside a string. -/
def escape (c : Char) : List Char :=
  if c = '"' then ['\\', '"']
  else if c = '\\' then ['\\', '\\']
  else if c = '\n' then ['\\', 'n']
  else if c = '\r' then ['\\', 'r']
  else if c = '\t' then ['\\', 't']
  else if c = '\x08' then ['\\', 'b']
  else if c = '\x0c' then ['\\', 'f']
  else if c.toNat < 0x20 then
    ['\\', 'u', '0', '0', Nat.digitChar (c.toNat / 16), Nat.digitChar (c.toNat % 16)]
  else [c]

/-- A string with its quotes. -/
def quote (s : String) : List Char :=
  '"' :: (s.toList.flatMap escape ++ ['"'])

/-- The text of a number that is not whole by its form. -/
def floatText : Binary64 → List Char
  | .nan => "NaN".toList
  | .infinite negative => if negative then "-Infinity".toList else "Infinity".toList
  | x => x.text.toList

/-! ## Values -/

mutual

/-- The text of a value. -/
def write : Json → List Char
  | .null => ['n', 'u', 'l', 'l']
  | .bool true => ['t', 'r', 'u', 'e']
  | .bool false => ['f', 'a', 'l', 's', 'e']
  | .int n => Text.integerText n
  | .float x => floatText x
  | .str s => quote s
  | .arr [] => ['[', ']']
  | .arr (x :: rest) => '[' :: (write x ++ writeItems rest)
  | .obj [] => ['\x7b', '\x7d']
  | .obj ((k, v) :: rest) => '\x7b' :: (quote k ++ ':' :: (write v ++ writeMembers rest))

/-- The items after the first one, with the closing bracket. -/
def writeItems : List Json → List Char
  | [] => [']']
  | x :: rest => ',' :: (write x ++ writeItems rest)

/-- The members after the first one, with the closing brace. -/
def writeMembers : List (String × Json) → List Char
  | [] => ['\x7d']
  | (k, v) :: rest => ',' :: (quote k ++ ':' :: (write v ++ writeMembers rest))

end

/-- The compact text of a value. -/
def render (v : Json) : String := String.ofList (write v)

end WebhookRegistry.Json
