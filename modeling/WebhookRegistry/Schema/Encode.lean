/-
  Values of a schema as JSON.

  There are two layouts. With `.names` every field stands under its name and nulls are kept, so the
  value can be inspected; with `.wire` a field stands under its alias and null fields are left out, as
  in stored payloads and in answers.
-/
import WebhookRegistry.Schema.Check

namespace WebhookRegistry.Schema

/-- How the fields of a record are laid out. -/
inductive Layout where
  | names
  | wire
  deriving DecidableEq, Repr

/-- The key of a field in a layout. -/
def Layout.key : Layout → String → String
  | .names, name => name
  | .wire, name => aliasOf name

/-- Puts a member in front of others, unless it is a null that the layout leaves out. -/
def Layout.addMember (layout : Layout) (name : String) (v : Json) (rest : List (String × Json)) :
    List (String × Json) :=
  match layout, v with
  | .wire, .null => rest
  | _, _ => (layout.key name, v) :: rest

mutual

/-- The JSON of a value of a kind. -/
def encode (layout : Layout) : (kind : Kind) → kind.Carrier → Json
  | .text _, s => .str s
  | .integer, n => .int n
  | .nullable kind, x =>
    match x with
    | none => .null
    | some a => encode layout kind a
  | .list item, xs => .arr (xs.map (encode layout item))
  | .record fields, x => .obj (encodeFields layout fields x)

/-- The members of a tuple of fields. -/
def encodeFields (layout : Layout) : (fields : Fields) → fields.Carrier → List (String × Json)
  | .nil, _ => []
  | .cons name kind _ rest, x =>
    layout.addMember name (encode layout kind x.1) (encodeFields layout rest x.2)

end

/-! ## One equation for each kind -/

theorem encode_text (layout : Layout) (minLength : Nat) (s : String) :
    encode layout (.text minLength) s = .str s := rfl

theorem encode_integer (layout : Layout) (n : Int) : encode layout .integer n = .int n := rfl

theorem encode_none (layout : Layout) (kind : Kind) : encode layout (.nullable kind) none = .null := rfl

theorem encode_some (layout : Layout) (kind : Kind) (a : kind.Carrier) :
    encode layout (.nullable kind) (some a) = encode layout kind a := rfl

theorem encode_list (layout : Layout) (item : Kind) (xs : List item.Carrier) :
    encode layout (.list item) xs = .arr (xs.map (encode layout item)) := rfl

theorem encode_record (layout : Layout) (fields : Fields) (x : fields.Carrier) :
    encode layout (.record fields) x = .obj (encodeFields layout fields x) := rfl

theorem encodeFields_cons (layout : Layout) (name : String) (kind : Kind) (default : Option Json)
    (rest : Fields) (x : (Fields.cons name kind default rest).Carrier) :
    encodeFields layout (.cons name kind default rest) x =
      layout.addMember name (encode layout kind x.1) (encodeFields layout rest x.2) := rfl

/-- In the layout that is sent a null is left out. -/
theorem addMember_null (name : String) (rest : List (String × Json)) :
    Layout.wire.addMember name .null rest = rest := rfl

/-- In the layout that is sent anything but a null stands under its alias. -/
theorem addMember_wire (name : String) {v : Json} (h : v ≠ .null) (rest : List (String × Json)) :
    Layout.wire.addMember name v rest = (aliasOf name, v) :: rest := by
  cases v
  · exact absurd rfl h
  all_goals rfl

end WebhookRegistry.Schema
