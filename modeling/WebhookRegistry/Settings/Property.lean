/-
  Configuration properties.

  A property has a dotted name. Overrides go first and are handed out as they are; a value from the
  settings is handed out as text. A property that stands in neither is not set, and a settings value
  without a text cannot be handed out: one that holds too long an integer, or is nested too deep for the
  stack of whoever asks.
-/
import WebhookRegistry.Json.Display
import WebhookRegistry.ServiceError

namespace WebhookRegistry

/-- Where properties are looked up; settings that are absent are empty. -/
structure Properties where
  overrides : List (String × Json)
  settings : List (String × Json)
  deriving Inhabited

/-- Why a property has no value. -/
inductive PropertyFault where
  | notSet (name : String)
  | noText (name : String) (fault : Json.TextFault)
  deriving DecidableEq, Repr

/-- Why a property has no value, for people. -/
def PropertyFault.message [Wording] : PropertyFault → String
  | .notSet name => (ServiceError.propertyNotSet name).message
  | .noText _ _ => Wording.noText

namespace Properties

/-- The value of a property, with room for so many values inside a settings value. -/
def value (room : Nat) (properties : Properties) (name : String) : Except PropertyFault Json :=
  match Json.lookup name properties.overrides with
  | some v => .ok v
  | none =>
    match Json.lookup name properties.settings with
    | none => .error (.notSet name)
    | some v =>
      match v.text room with
      | .ok text => .ok (.str text)
      | .error fault => .error (.noText name fault)

/-- **An override is the only value that counts**, whatever the settings say. -/
theorem value_of_override {room : Nat} {properties : Properties} {name : String} {v : Json}
    (h : Json.lookup name properties.overrides = some v) : properties.value room name = .ok v := by
  simp [value, h]

end Properties

end WebhookRegistry
