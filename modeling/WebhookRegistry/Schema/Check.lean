/-
  Checking a JSON value against a kind.

  A check goes on after a fault, so that every fault is reported: those of a record in the order of its
  fields, those of a list by index, and a nested fault in the place of its field with the path to it. A
  field is looked up under its alias first and then under its name; a missing field stands for its
  default, as if the default had been sent.

  Whole numbers are lenient: integers of any size, truth values, numbers without a fraction within 64
  bits, and texts that are numerals.
-/
import WebhookRegistry.Schema.Kind
import WebhookRegistry.Json.Reader

namespace WebhookRegistry.Schema

/-! ## Faults -/

/-- One step into a value: a key of an object or an index of a list. -/
inductive PathStep where
  | key (name : String)
  | index (n : Nat)
  deriving DecidableEq, Repr

/-- What is wrong at a place. -/
inductive Cause where
  | missing
  | notText
  | tooShort
  | notInteger
  | badNumeral
  | tooLargeInteger
  | fraction
  | notFinite
  | notRecord
  | notList
  | notJson
  deriving DecidableEq, Repr

/-- A fault with the path to its place. -/
structure Fault where
  path : List PathStep
  cause : Cause
  deriving DecidableEq, Repr

/-- Whether a value came decoded or as JSON text; two faults are worded differently. -/
inductive Source where
  | decoded
  | text
  deriving DecidableEq, Repr

/-- The code of a fault. -/
def Cause.code : Source → Cause → String
  | _, .missing => "missing"
  | _, .notText => "string_type"
  | _, .tooShort => "string_too_short"
  | _, .notInteger => "int_type"
  | _, .badNumeral => "int_parsing"
  | _, .tooLargeInteger => "int_parsing_size"
  | _, .fraction => "int_from_float"
  | _, .notFinite => "finite_number"
  | .decoded, .notRecord => "model_attributes_type"
  | .text, .notRecord => "model_type"
  | _, .notList => "list_type"
  | _, .notJson => "json_invalid"

/-- The message of a fault; a text that is no JSON has none of its own. -/
def Cause.message : Source → Cause → String
  | _, .missing => "Field required"
  | _, .notText => "Input should be a valid string"
  | _, .tooShort => "String should have at least 1 character"
  | _, .notInteger => "Input should be a valid integer"
  | _, .badNumeral => "Input should be a valid integer, unable to parse string as an integer"
  | _, .tooLargeInteger => "Unable to parse input string as an integer, exceeded maximum size"
  | _, .fraction => "Input should be a valid integer, got a number with a fractional part"
  | _, .notFinite => "Input should be a finite number"
  | .decoded, .notRecord =>
    "Input should be a valid dictionary or object to extract fields from"
  | .text, .notRecord => "Input should be an object"
  | .decoded, .notList => "Input should be a valid list"
  | .text, .notList => "Input should be a valid array"
  | _, .notJson => ""

/-! ## Results that gather faults -/

/-- A checked value, or all its faults. -/
abbrev Checked (α : Type) := Except (List Fault) α

/-- A single fault at the place itself. -/
def Checked.fault {α : Type} (cause : Cause) : Checked α := .error [⟨[], cause⟩]

/-- The result one step further from the root. -/
def Checked.under {α : Type} (step : PathStep) : Checked α → Checked α
  | .ok a => .ok a
  | .error faults => .error (faults.map fun f => { f with path := step :: f.path })

/-- Both values, or the faults of both in order. -/
def Checked.both {α β : Type} : Checked α → Checked β → Checked (α × β)
  | .ok a, .ok b => .ok (a, b)
  | .ok _, .error faults => .error faults
  | .error faults, .ok _ => .error faults
  | .error faults, .error more => .error (faults ++ more)

theorem Checked.under_eq_ok_iff {α : Type} {step : PathStep} {p : Checked α} {a : α} :
    p.under step = .ok a ↔ p = .ok a := by
  cases p <;> simp [Checked.under]

theorem Checked.both_eq_ok_iff {α β : Type} {p : Checked α} {q : Checked β} {x : α × β} :
    Checked.both p q = .ok x ↔ p = .ok x.1 ∧ q = .ok x.2 := by
  obtain ⟨a, b⟩ := x
  cases p <;> cases q <;> simp [Checked.both]

/-- Checks the items of a list, the first one at a given index. -/
def checkItems {α : Type} (checkItem : Json → Checked α) : Nat → List Json → Checked (List α)
  | _, [] => .ok []
  | n, x :: rest =>
    match Checked.both ((checkItem x).under (.index n)) (checkItems checkItem (n + 1) rest) with
    | .ok (a, more) => .ok (a :: more)
    | .error faults => .error faults

/-! ## Leaves -/

/-- Checks a text of a least length. -/
def checkText (minLength : Nat) : Json → Checked String
  | .str s => if s.length < minLength then .fault .tooShort else .ok s
  | _ => .fault .notText

/-- The whole number that a number of the 64-bit format stands for. -/
def integerOfFloat : Binary64 → Checked Int
  | .nan => .fault .notFinite
  | .infinite _ => .fault .notFinite
  | x =>
    match x.whole? with
    | none => .fault .fraction
    | some n =>
      if -0x8000000000000000 < n ∧ n < 0x8000000000000000 then .ok n else .fault .tooLargeInteger

/-- Checks a whole number. -/
def checkInteger : Json → Checked Int
  | .int n => .ok n
  | .bool b => .ok (if b then 1 else 0)
  | .float x => integerOfFloat x
  | .str s =>
    match Text.fieldValue s with
    | .ok n => .ok n
    | .error .tooLong => .fault .tooLargeInteger
    | .error .malformed => .fault .badNumeral
  | _ => .fault .notInteger

/-! ## Values -/

/-- The key under which a field is present, with its value; the alias goes first. -/
def locate (name : String) (members : List (String × Json)) : Option (String × Json) :=
  match Json.lookup (aliasOf name) members with
  | some v => some (aliasOf name, v)
  | none => (Json.lookup name members).map fun v => (name, v)

mutual

/-- Checks a value against a kind. -/
def check : (kind : Kind) → Json → Checked kind.Carrier
  | .text minLength, v => checkText minLength v
  | .integer, v => checkInteger v
  | .nullable kind, v =>
    match v with
    | .null => .ok none
    | v =>
      match check kind v with
      | .ok a => .ok (some a)
      | .error faults => .error faults
  | .list item, v =>
    match v with
    | .arr items => checkItems (check item) 0 items
    | _ => .fault .notList
  | .record fields, v =>
    match v with
    | .obj members => checkFields fields members
    | _ => .fault .notRecord

/-- Checks the members of an object against the fields of a record. -/
def checkFields : (fields : Fields) → List (String × Json) → Checked fields.Carrier
  | .nil, _ => .ok ()
  | .cons name kind default rest, members =>
    let first : Checked kind.Carrier :=
      match locate name members with
      | some (key, v) => (check kind v).under (.key key)
      | none =>
        match default with
        | some d => check kind d
        | none => (Checked.fault .missing).under (.key (aliasOf name))
    Checked.both first (checkFields rest members)

end

/-! ## One equation for each kind

  The carriers depend on the kind, so the definition is opened by these and not by unfolding. -/

theorem check_text (minLength : Nat) (s : String) :
    check (.text minLength) (.str s) =
      if s.length < minLength then .fault .tooShort else .ok s := rfl

theorem check_integer (v : Json) : check .integer v = checkInteger v := rfl

theorem check_null (kind : Kind) : check (.nullable kind) .null = .ok none := rfl

theorem check_nullable {v : Json} (kind : Kind) (h : v ≠ .null) :
    check (.nullable kind) v =
      match check kind v with
      | .ok a => .ok (some a)
      | .error faults => .error faults := by
  cases v
  · exact absurd rfl h
  all_goals rfl

theorem check_arr (item : Kind) (items : List Json) :
    check (.list item) (.arr items) = checkItems (check item) 0 items := rfl

theorem check_obj (fields : Fields) (members : List (String × Json)) :
    check (.record fields) (.obj members) = checkFields fields members := rfl

theorem checkFields_cons (name : String) (kind : Kind) (default : Option Json) (rest : Fields)
    (members : List (String × Json)) :
    checkFields (.cons name kind default rest) members =
      Checked.both
        (match locate name members with
        | some (key, v) => (check kind v).under (.key key)
        | none =>
          match default with
          | some d => check kind d
          | none => (Checked.fault .missing).under (.key (aliasOf name)))
        (checkFields rest members) := rfl

end WebhookRegistry.Schema
