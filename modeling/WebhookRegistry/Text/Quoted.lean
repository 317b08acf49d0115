/-
  Quoted text, as it stands inside the text of a list or an object.

  Single quotes enclose the text unless it has single quotes and no double ones. Inside, the enclosing
  quote and the backslash are escaped, line feed, carriage return and tab have short escapes, and every
  other character that cannot be printed is written by its code point.
-/
import WebhookRegistry.Text.Printable

namespace WebhookRegistry.Text

/-- The lower-case hexadecimal digits of a number, with zeros in front up to a width. -/
def hexDigits (width n : Nat) : List Char :=
  let digits := Nat.toDigits 16 n
  List.replicate (width - digits.length) '0' ++ digits

/-- A character by its code point, in the shortest of three widths. -/
def codePointEscape (c : Char) : List Char :=
  let n := c.toNat
  if n < 0x100 then '\\' :: 'x' :: hexDigits 2 n
  else if n < 0x10000 then '\\' :: 'u' :: hexDigits 4 n
  else '\\' :: 'U' :: hexDigits 8 n

/-- How a character stands between given quotes. -/
def quotedChar (quote c : Char) : List Char :=
  if c = quote ∨ c = '\\' then ['\\', c]
  else if c = '\n' then ['\\', 'n']
  else if c = '\r' then ['\\', 'r']
  else if c = '\t' then ['\\', 't']
  else if isPrintable c then [c]
  else codePointEscape c

/-- The text between quotes. -/
def quoted (text : String) : String :=
  let cs := text.toList
  let quote := if cs.contains '\'' && !cs.contains '"' then '"' else '\''
  String.ofList (quote :: (cs.flatMap (quotedChar quote) ++ [quote]))

/-- The text with every character beyond ASCII written by its code point. -/
def asciiOnly (text : String) : String :=
  String.ofList (text.toList.flatMap fun c => if c.toNat < 0x80 then [c] else codePointEscape c)

end WebhookRegistry.Text
