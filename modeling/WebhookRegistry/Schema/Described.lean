/-
  Types that a schema describes.

  An instance of `Described` says how a structure of the library is made of the fields of a record. From
  it come the three ways in and out of JSON: a decoded value is validated, a text is read, and a value is
  written in a layout.
-/
import WebhookRegistry.Schema.Encode
import WebhookRegistry.Json.Writer

namespace WebhookRegistry.Schema

/-- A type whose values are records with a title and fields. -/
class Described (α : Type) where
  /-- The name under which faults are reported. -/
  title : String
  /-- The fields of the record. -/
  fields : Fields
  /-- The value of a tuple of fields. -/
  ofTuple : fields.Carrier → α
  /-- The tuple of fields of a value. -/
  toTuple : α → fields.Carrier

/-- A refused value: what it should have been, how it came, and all its faults. -/
structure Invalid where
  title : String
  source : Source
  faults : List Fault
  deriving DecidableEq, Repr

variable {α : Type} [Described α]

/-- The result of a check as a value of the described type. -/
def ofChecked (source : Source) (checked : Checked (Described.fields α).Carrier) :
    Except Invalid α :=
  match checked with
  | .ok x => .ok (Described.ofTuple x)
  | .error faults => .error ⟨Described.title α, source, faults⟩

/-- Validates a decoded value. -/
def validate (v : Json) : Except Invalid α :=
  ofChecked .decoded (check (.record (Described.fields α)) v)

/-- Reads a value from JSON text. -/
def readText (text : String) : Except Invalid α :=
  match Json.parse? text with
  | none => .error ⟨Described.title α, .text, [⟨[], .notJson⟩]⟩
  | some v => ofChecked .text (check (.record (Described.fields α)) v)

/-- The JSON of a value in a layout. -/
def toJson (layout : Layout) (a : α) : Json :=
  encode layout (.record (Described.fields α)) (Described.toTuple a)

/-- The text of a value as it is stored and sent. -/
def writeText (a : α) : String := (toJson .wire a).render

end WebhookRegistry.Schema
