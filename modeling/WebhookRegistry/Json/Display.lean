/-
  How a JSON value reads in a message or a log line.

  A text stands for itself at the top and is quoted inside a list or an object; null, the truth values
  and the numbers have one form each. Two kinds of values have no text: those with an integer that is too
  long to be written, and those nested deeper than there is room for. Values are gone through from the
  left, and the first hindrance counts.

  The room is what the stack of the program leaves: one value inside another takes one more place. JSON is
  written with the same care for integers, but only lists and objects take a place there.
-/
import WebhookRegistry.Entries
import WebhookRegistry.Json.Writer
import WebhookRegistry.Text.Quoted

namespace WebhookRegistry.Json

/-- Why a value has no text. -/
inductive TextFault where
  | tooManyDigits
  | tooDeep
  deriving DecidableEq, Repr

/-- The members with each key once, at its first place and with its last value. -/
def distinct (members : List (String × Json)) : Entries String Json :=
  members.foldl (fun known (key, v) => known.put key v) []

/-- The text of a value that stands inside another one, where there is room for so many values one inside
    another. -/
def quotedText : Nat → Json → Except TextFault String
  | 0, _ => .error .tooDeep
  | _ + 1, .null => .ok "None"
  | _ + 1, .bool true => .ok "True"
  | _ + 1, .bool false => .ok "False"
  | _ + 1, .int n =>
    if Text.isShort n then .ok (String.ofList (Text.integerText n)) else .error .tooManyDigits
  | _ + 1, .float x => .ok x.text
  | _ + 1, .str s => .ok (Text.quoted s)
  | room + 1, .arr items =>
    (items.mapM (quotedText room)).map fun texts => "[" ++ ", ".intercalate texts ++ "]"
  | room + 1, .obj members =>
    ((distinct members).mapM fun member =>
      (quotedText room member.2).map (Text.quoted member.1 ++ ": " ++ ·)).map fun texts =>
        "\x7b" ++ ", ".intercalate texts ++ "\x7d"

/-- The text of a value, with room for so many values inside it. -/
def text (room : Nat) : Json → Except TextFault String
  | .str s => .ok s
  | v => quotedText (room + 1) v

/-- Whether a value can be written as JSON, with room for so many lists and objects one inside another. -/
def isWritable : Nat → Json → Bool
  | _, .int n => Text.isShort n
  | 0, .arr _ => false
  | 0, .obj _ => false
  | room + 1, .arr items => items.all (isWritable room)
  | room + 1, .obj members => (distinct members).all fun member => isWritable room member.2
  | _, _ => true

@[simp] theorem text_str (room : Nat) (s : String) : (Json.str s).text room = .ok s := rfl

theorem text_int (room : Nat) (n : Int) : (Json.int n).text room =
    if Text.isShort n then .ok (String.ofList (Text.integerText n)) else .error .tooManyDigits := rfl

end WebhookRegistry.Json
