/-
  JSON values.

  A value keeps what its text said: an integer of any length is exact, a number with a fraction or an
  exponent is the nearest 64-bit one, and an object keeps its members in order, repeated keys included.
  Looking a key up takes the last member of that name, so a repeated key overrides the earlier ones.
-/
import WebhookRegistry.Number.Binary64

namespace WebhookRegistry

/-- A JSON value. -/
inductive Json where
  | null
  | bool (b : Bool)
  | int (n : Int)
  | float (x : Binary64)
  | str (s : String)
  | arr (items : List Json)
  | obj (members : List (String × Json))
  deriving Inhabited, Repr, BEq

namespace Json

/-- The value of the last member with a key. -/
def lookup (key : String) : List (String × Json) → Option Json
  | [] => none
  | (k, v) :: rest =>
    match lookup key rest with
    | some w => some w
    | none => if k = key then some v else none

/-- The value under a key of an object; other values have no keys. -/
def get? (key : String) : Json → Option Json
  | .obj members => lookup key members
  | _ => none

/-- The value of an optional text. -/
def ofText? : Option String → Json
  | none => .null
  | some s => .str s

/-! ## Looking keys up -/

@[simp] theorem lookup_nil (key : String) : lookup key [] = none := rfl

/-- **The last member wins.** -/
theorem lookup_append (key : String) (xs ys : List (String × Json)) :
    lookup key (xs ++ ys) = (lookup key ys).or (lookup key xs) := by
  induction xs with
  | nil => cases h : lookup key ys <;> simp [h]
  | cons x xs ih =>
    obtain ⟨k, v⟩ := x
    simp only [List.cons_append, lookup, ih]
    cases hy : lookup key ys <;> simp

theorem lookup_eq_none_iff {key : String} {members : List (String × Json)} :
    lookup key members = none ↔ key ∉ members.map Prod.fst := by
  induction members with
  | nil => simp
  | cons x xs ih =>
    obtain ⟨k, v⟩ := x
    simp only [lookup, List.map_cons, List.mem_cons, not_or, ← ih]
    cases h : lookup key xs <;> simp [eq_comm]

end Json

end WebhookRegistry
