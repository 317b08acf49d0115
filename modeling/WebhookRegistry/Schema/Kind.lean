/-
  Kinds of values that a schema describes, with the types that carry them.

  A kind is a text, a whole number, a kind or null, a list of a kind, or a record of named fields. Each
  kind has a type of its values, `Kind.Carrier`: a record is carried by the tuple of its fields, so a
  value of a schema cannot lack a field or hold one of the wrong type.

  A field has two keys: its name, in words joined by underscores, and its alias, the same words in camel
  case. A field without a default is required.
-/
import WebhookRegistry.Json.Basic

namespace WebhookRegistry.Schema

mutual

/-- What a value may be. -/
inductive Kind where
  | text (minLength : Nat)
  | integer
  | nullable (kind : Kind)
  | list (item : Kind)
  | record (fields : Fields)

/-- The fields of a record in their order: a name, a kind and the default of each. -/
inductive Fields where
  | nil
  | cons (name : String) (kind : Kind) (default : Option Json) (rest : Fields)

end

/-! ## Carriers -/

mutual

/-- The type of the values of a kind. -/
def Kind.Carrier : Kind → Type
  | .text _ => String
  | .integer => Int
  | .nullable kind => Option kind.Carrier
  | .list item => List item.Carrier
  | .record fields => fields.Carrier

/-- The type of the tuples of fields of a record. -/
def Fields.Carrier : Fields → Type
  | .nil => Unit
  | .cons _ kind _ rest => kind.Carrier × rest.Carrier

end

/-! ## Keys -/

/-- Joins words in camel case: an underscore goes and the letter after it becomes a capital. -/
def camelCase : List Char → List Char
  | [] => []
  | '_' :: c :: rest => c.toUpper :: camelCase rest
  | c :: rest => c :: camelCase rest

/-- The alias of a field name. -/
def aliasOf (name : String) : String := String.ofList (camelCase name.toList)

example : aliasOf "push_notification_config" = "pushNotificationConfig" := by decide +kernel

end WebhookRegistry.Schema
