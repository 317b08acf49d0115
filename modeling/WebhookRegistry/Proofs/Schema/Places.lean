/-
  What a kind asks of a value, and the places where a value can fail it.

  None of this checks anything; it says what a check should find.

  1. **Shapes** (`Accepts`): the values that a kind declares. A record takes each field under its alias,
     or under its name if the alias is absent (`Present`); a field without a default has to be there.

  2. **Places** (`Leads`): a path leads from a value to another one inside it, and the kinds along it say
     of what kind that one should be. Read without the kinds, the path is a way through the JSON alone
     (`follow`).

  3. **Faults** (`FaultAt`): a place is at fault if the value there is not what its kind asks for first of
     all (`IllTyped`), or if an object there lacks a field that is required.

  4. **Order** (`Kind.outline`): a path is numbered as a section of a text is, by the positions of fields
     in their records and of items in their lists.
-/
import WebhookRegistry.Proofs.Schema.RoundTrip

namespace WebhookRegistry.Schema

/-! ## Fields -/

/-- Whether a record declares a field by a name, with its kind and its default. -/
inductive Fields.Declares : Fields → String → Kind → Option Json → Prop where
  | here {name : String} {kind : Kind} {default : Option Json} {rest : Fields} :
      Declares (.cons name kind default rest) name kind default
  | there {name first : String} {kind firstKind : Kind} {default firstDefault : Option Json}
      {rest : Fields} (h : Declares rest name kind default) :
      Declares (.cons first firstKind firstDefault rest) name kind default

theorem Fields.Declares.mem_names {fields : Fields} {name : String} {kind : Kind} {default : Option Json}
    (h : fields.Declares name kind default) : name ∈ fields.names := by
  induction h with
  | here => exact List.mem_cons_self
  | there _ ih => exact List.mem_cons_of_mem _ ih

/-- Whether a key is one of the two spellings of a field. -/
def Spells (name key : String) : Prop := key = aliasOf name ∨ key = name

/-- Whether an object has a field under a key, with its value: under the alias, or under the name if the
    alias is absent. -/
inductive Present (name : String) (members : List (String × Json)) : String → Json → Prop where
  | byAlias {v : Json} (h : Json.lookup (aliasOf name) members = some v) :
      Present name members (aliasOf name) v
  | byName {v : Json} (halias : Json.lookup (aliasOf name) members = none)
      (h : Json.lookup name members = some v) : Present name members name v

/-- Whether an object has a field under neither of its keys. -/
def Absent (name : String) (members : List (String × Json)) : Prop :=
  Json.lookup (aliasOf name) members = none ∧ Json.lookup name members = none

theorem Present.spells {name key : String} {members : List (String × Json)} {v : Json}
    (h : Present name members key v) : Spells name key := by
  cases h with
  | byAlias => exact Or.inl rfl
  | byName => exact Or.inr rfl

/-- The key of a field leads to its value. -/
theorem Present.lookup_eq {name key : String} {members : List (String × Json)} {v : Json}
    (h : Present name members key v) : Json.lookup key members = some v := by
  cases h with
  | byAlias h => exact h
  | byName _ h => exact h

/-- **A field is located where it is present.** -/
theorem locate_eq_some_iff {name key : String} {members : List (String × Json)} {v : Json} :
    locate name members = some (key, v) ↔ Present name members key v := by
  unfold locate
  cases halias : Json.lookup (aliasOf name) members with
  | some w =>
    constructor
    · rintro ⟨⟩
      exact .byAlias halias
    · rintro (h | ⟨hno, -⟩)
      · rw [h] at halias
        cases halias
        rfl
      · rw [hno] at halias
        cases halias
  | none =>
    constructor
    · intro h
      obtain ⟨w, hw, heq⟩ := Option.map_eq_some_iff.1 h
      cases heq
      exact .byName halias hw
    · rintro (h | ⟨-, h⟩)
      · rw [h] at halias
        cases halias
      · rw [h]
        rfl

theorem locate_eq_none_iff {name : String} {members : List (String × Json)} :
    locate name members = none ↔ Absent name members := by
  unfold locate Absent
  cases Json.lookup (aliasOf name) members <;> simp

/-! ## Shapes -/

/-- Whether a value is taken for a whole number: an integer, a truth value, a number of the 64-bit format
    that is whole and within 64 bits, or a text that is a numeral. -/
inductive IsInteger : Json → Prop where
  | int (n : Int) : IsInteger (.int n)
  | bool (b : Bool) : IsInteger (.bool b)
  | float {x : Binary64} {n : Int} (hwhole : x.whole? = some n)
      (hbounds : -0x8000000000000000 < n ∧ n < 0x8000000000000000) : IsInteger (.float x)
  | text {s : String} {n : Int} (h : Text.fieldValue s = .ok n) : IsInteger (.str s)

/-- **The values that a kind declares.** -/
inductive Accepts : Kind → Json → Prop where
  | text {minLength : Nat} {s : String} (h : minLength ≤ s.length) : Accepts (.text minLength) (.str s)
  | integer {v : Json} (h : IsInteger v) : Accepts .integer v
  | null {kind : Kind} : Accepts (.nullable kind) .null
  | nullable {kind : Kind} {v : Json} (h : Accepts kind v) : Accepts (.nullable kind) v
  | list {item : Kind} {items : List Json} (h : ∀ x ∈ items, Accepts item x) :
      Accepts (.list item) (.arr items)
  | record {fields : Fields} {members : List (String × Json)}
      (hpresent : ∀ name kind default key v, fields.Declares name kind default →
        Present name members key v → Accepts kind v)
      (hrequired : ∀ name kind, fields.Declares name kind none → ¬ Absent name members) :
      Accepts (.record fields) (.obj members)

/-! ## Places -/

/-- Whether a path leads from a value of a kind to a value inside it that should be of another kind. -/
inductive Leads : Kind → Json → List PathStep → Kind → Json → Prop where
  | here {kind : Kind} {v : Json} : Leads kind v [] kind v
  | nonnull {kind target : Kind} {v w : Json} {path : List PathStep} (hv : v ≠ .null)
      (h : Leads kind v path target w) : Leads (.nullable kind) v path target w
  | item {item target : Kind} {items : List Json} {n : Nat} {x w : Json} {path : List PathStep}
      (hx : items[n]? = some x) (h : Leads item x path target w) :
      Leads (.list item) (.arr items) (.index n :: path) target w
  | field {fields : Fields} {members : List (String × Json)} {name key : String} {kind target : Kind}
      {default : Option Json} {v w : Json} {path : List PathStep}
      (hfield : fields.Declares name kind default) (hv : Present name members key v)
      (h : Leads kind v path target w) :
      Leads (.record fields) (.obj members) (.key key :: path) target w

/-- The value that a path leads to, by keys of objects and indexes of arrays. -/
def follow : List PathStep → Json → Option Json
  | [], v => some v
  | .key key :: path, .obj members => (Json.lookup key members).bind (follow path)
  | .index n :: path, .arr items => items[n]?.bind (follow path)
  | _, _ => none

/-- **A path that leads to a value can be followed to it.** -/
theorem Leads.follow_eq {kind target : Kind} {v w : Json} {path : List PathStep}
    (h : Leads kind v path target w) : follow path v = some w := by
  induction h with
  | here => rfl
  | nonnull _ _ ih => exact ih
  | item hx _ ih =>
    rw [follow, hx]
    exact ih
  | field _ hv _ ih =>
    rw [follow, hv.lookup_eq]
    exact ih

/-! ## Faults -/

/-- Why a value is not taken for a whole number. -/
inductive IntegerFault : Json → Cause → Prop where
  | null : IntegerFault .null .notInteger
  | arr (items : List Json) : IntegerFault (.arr items) .notInteger
  | obj (members : List (String × Json)) : IntegerFault (.obj members) .notInteger
  | nan : IntegerFault (.float .nan) .notFinite
  | infinite (negative : Bool) : IntegerFault (.float (.infinite negative)) .notFinite
  | fraction {negative : Bool} {mantissa : Nat} {exponent : Int}
      (h : (Binary64.finite negative mantissa exponent).whole? = none) :
      IntegerFault (.float (.finite negative mantissa exponent)) .fraction
  | beyond {x : Binary64} {n : Int} (hwhole : x.whole? = some n)
      (hbounds : ¬ (-0x8000000000000000 < n ∧ n < 0x8000000000000000)) :
      IntegerFault (.float x) .tooLargeInteger
  | tooLong {s : String} (h : Text.fieldValue s = .error .tooLong) :
      IntegerFault (.str s) .tooLargeInteger
  | malformed {s : String} (h : Text.fieldValue s = .error .malformed) :
      IntegerFault (.str s) .badNumeral

/-- Why a value is not what its kind asks for first of all, leaving aside what it holds. A null that a
    kind takes is no matter of this; any other value has to be of the kind behind it. -/
inductive IllTyped : Kind → Json → Cause → Prop where
  | notText {minLength : Nat} {v : Json} (h : ∀ s, v ≠ .str s) : IllTyped (.text minLength) v .notText
  | tooShort {minLength : Nat} {s : String} (h : s.length < minLength) :
      IllTyped (.text minLength) (.str s) .tooShort
  | notInteger {v : Json} {cause : Cause} (h : IntegerFault v cause) : IllTyped .integer v cause
  | notList {item : Kind} {v : Json} (h : ∀ items, v ≠ .arr items) : IllTyped (.list item) v .notList
  | notRecord {fields : Fields} {v : Json} (h : ∀ members, v ≠ .obj members) :
      IllTyped (.record fields) v .notRecord

/-- **The places at fault in a value**, each with the reason. -/
inductive FaultAt (kind : Kind) (v : Json) : List PathStep → Cause → Prop where
  | illTyped {path : List PathStep} {target : Kind} {w : Json} {cause : Cause}
      (hplace : Leads kind v path target w) (h : IllTyped target w cause) : FaultAt kind v path cause
  | missing {path : List PathStep} {fields : Fields} {members : List (String × Json)} {name : String}
      {field : Kind} (hplace : Leads kind v path (.record fields) (.obj members))
      (hfield : fields.Declares name field none) (h : Absent name members) :
      FaultAt kind v (path ++ [.key (aliasOf name)]) .missing

section

variable {kind : Kind} {v : Json} {path : List PathStep} {cause : Cause}

/-- In a text only the text itself can be at fault. -/
theorem faultAt_text_iff {minLength : Nat} :
    FaultAt (.text minLength) v path cause ↔ path = [] ∧ IllTyped (.text minLength) v cause := by
  constructor
  · rintro (⟨⟨⟩, h⟩ | ⟨⟨⟩, -, -⟩)
    exact ⟨rfl, h⟩
  · rintro ⟨rfl, h⟩
    exact .illTyped .here h

theorem faultAt_integer_iff :
    FaultAt .integer v path cause ↔ path = [] ∧ IllTyped .integer v cause := by
  constructor
  · rintro (⟨⟨⟩, h⟩ | ⟨⟨⟩, -, -⟩)
    exact ⟨rfl, h⟩
  · rintro ⟨rfl, h⟩
    exact .illTyped .here h

/-- Null is never at fault where it is taken; another value is if the kind behind it says so. -/
theorem faultAt_nullable_iff :
    FaultAt (.nullable kind) v path cause ↔ v ≠ .null ∧ FaultAt kind v path cause := by
  constructor
  · rintro (⟨hplace, h⟩ | ⟨hplace, hfield, h⟩)
    · cases hplace with
      | here => cases h
      | nonnull hv hplace => exact ⟨hv, .illTyped hplace h⟩
    · cases hplace with
      | nonnull hv hplace => exact ⟨hv, .missing hplace hfield h⟩
  · rintro ⟨hv, hplace, h⟩
    · exact .illTyped (.nonnull hv hplace) h
    · exact .missing (.nonnull hv ‹_›) ‹_› ‹_›

/-- Where a list is due, anything else is at fault itself. -/
theorem faultAt_list_of_ne {item : Kind} (hv : ∀ items, v ≠ .arr items) :
    FaultAt (.list item) v path cause ↔ path = [] ∧ cause = .notList := by
  constructor
  · rintro (⟨hplace, h⟩ | ⟨hplace, -, -⟩)
    · cases hplace with
      | here =>
        cases h
        exact ⟨rfl, rfl⟩
      | item => exact absurd rfl (hv _)
    · cases hplace with
      | item => exact absurd rfl (hv _)
  · rintro ⟨rfl, rfl⟩
    exact .illTyped .here (.notList hv)

/-- **The faults of an array are those of its items.** -/
theorem faultAt_arr_iff {item : Kind} {items : List Json} :
    FaultAt (.list item) (.arr items) path cause ↔
      ∃ n x rest, items[n]? = some x ∧ path = .index n :: rest ∧ FaultAt item x rest cause := by
  constructor
  · rintro (⟨hplace, h⟩ | ⟨hplace, hfield, h⟩)
    · cases hplace with
      | here =>
        cases h with
        | notList h => exact absurd rfl (h items)
      | item hx hplace => exact ⟨_, _, _, hx, rfl, .illTyped hplace h⟩
    · cases hplace with
      | item hx hplace => exact ⟨_, _, _, hx, rfl, .missing hplace hfield h⟩
  · rintro ⟨n, x, rest, hx, rfl, hplace, h⟩
    · exact .illTyped (.item hx hplace) h
    · exact .missing (.item hx ‹_›) ‹_› ‹_›

/-- Where a record is due, anything but an object is at fault itself. -/
theorem faultAt_record_of_ne {fields : Fields} (hv : ∀ members, v ≠ .obj members) :
    FaultAt (.record fields) v path cause ↔ path = [] ∧ cause = .notRecord := by
  constructor
  · rintro (⟨hplace, h⟩ | ⟨hplace, -, -⟩)
    · cases hplace with
      | here =>
        cases h
        exact ⟨rfl, rfl⟩
      | field => exact absurd rfl (hv _)
    · cases hplace with
      | here => exact absurd rfl (hv _)
      | field => exact absurd rfl (hv _)
  · rintro ⟨rfl, rfl⟩
    exact .illTyped .here (.notRecord hv)

/-- Whether one of the fields of an object is at fault: what it holds is, or it is missing. -/
def FieldFaultAt (fields : Fields) (members : List (String × Json)) (path : List PathStep)
    (cause : Cause) : Prop :=
  ∃ name kind default, fields.Declares name kind default ∧
    ((∃ key v rest, Present name members key v ∧ path = .key key :: rest ∧ FaultAt kind v rest cause) ∨
      (default = none ∧ Absent name members ∧ path = [.key (aliasOf name)] ∧ cause = .missing))

/-- **The faults of an object are those of its fields.** -/
theorem faultAt_obj_iff {fields : Fields} {members : List (String × Json)} :
    FaultAt (.record fields) (.obj members) path cause ↔ FieldFaultAt fields members path cause := by
  constructor
  · rintro (⟨hplace, h⟩ | ⟨hplace, hfield, h⟩)
    · cases hplace with
      | here =>
        cases h with
        | notRecord h => exact absurd rfl (h members)
      | field hfield hv hplace =>
        exact ⟨_, _, _, hfield, Or.inl ⟨_, _, _, hv, rfl, .illTyped hplace h⟩⟩
    · cases hplace with
      | here => exact ⟨_, _, _, hfield, Or.inr ⟨rfl, h, rfl, rfl⟩⟩
      | field hfirst hv hplace =>
        exact ⟨_, _, _, hfirst, Or.inl ⟨_, _, _, hv, rfl, .missing hplace hfield h⟩⟩
  · rintro ⟨name, kind, default, hfield, ⟨key, w, rest, hw, rfl, hfault⟩ | ⟨rfl, habsent, rfl, rfl⟩⟩
    · cases hfault with
      | illTyped hplace h => exact .illTyped (.field hfield hw hplace) h
      | missing hplace hinner h => exact .missing (.field hfield hw hplace) hinner h
    · exact .missing .here hfield habsent

/-- The fields of an object one by one. -/
theorem fieldFaultAt_cons_iff {name : String} {default : Option Json} {rest : Fields}
    {members : List (String × Json)} :
    FieldFaultAt (.cons name kind default rest) members path cause ↔
      ((∃ key v tail, Present name members key v ∧ path = .key key :: tail ∧ FaultAt kind v tail cause) ∨
        (default = none ∧ Absent name members ∧ path = [.key (aliasOf name)] ∧ cause = .missing)) ∨
      FieldFaultAt rest members path cause := by
  constructor
  · rintro ⟨other, otherKind, otherDefault, hfield, h⟩
    cases hfield with
    | here => exact Or.inl h
    | there hfield => exact Or.inr ⟨_, _, _, hfield, h⟩
  · rintro (h | ⟨other, otherKind, otherDefault, hfield, h⟩)
    · exact ⟨_, _, _, .here, h⟩
    · exact ⟨_, _, _, .there hfield, h⟩

/-- A fault of a field lies under one of the keys of that field. -/
theorem FieldFaultAt.exists_key {fields : Fields} {members : List (String × Json)}
    (h : FieldFaultAt fields members path cause) :
    ∃ name key rest, name ∈ fields.names ∧ Spells name key ∧ path = .key key :: rest := by
  obtain ⟨name, kind, default, hfield, ⟨key, v, rest, hv, rfl, -⟩ | ⟨-, -, rfl, -⟩⟩ := h
  · exact ⟨name, key, rest, hfield.mem_names, hv.spells, rfl⟩
  · exact ⟨name, _, [], hfield.mem_names, Or.inl rfl, rfl⟩

end

/-! ## Order -/

mutual

/-- The number of a path, as of a section in a text: the positions of its items and fields. -/
def Kind.outline : Kind → List PathStep → List Nat
  | .nullable kind, path => kind.outline path
  | .list item, .index n :: path => n :: item.outline path
  | .record fields, path => fields.outline 0 path
  | _, _ => []

/-- The number of a path into an object, if the first field has a given position. -/
def Fields.outline : Fields → Nat → List PathStep → List Nat
  | .cons name kind _ rest, n, .key key :: path =>
    if key = aliasOf name ∨ key = name then n :: kind.outline path
    else rest.outline (n + 1) (.key key :: path)
  | _, _, _ => []

end

/-- A path under a key of the first field has its position. -/
theorem Fields.outline_of_spells {name key : String} {kind : Kind} {default : Option Json} {rest : Fields}
    (n : Nat) (hkey : Spells name key) (path : List PathStep) :
    (Fields.cons name kind default rest).outline n (.key key :: path) = n :: kind.outline path := by
  rw [Fields.outline]
  exact if_pos hkey

/-- A key of another field is none of the first. -/
theorem Fields.Apart.not_spells {name other key : String} {kind : Kind} {default : Option Json}
    {rest : Fields} (h : (Fields.cons name kind default rest).Apart) (hother : other ∈ rest.names)
    (hkey : Spells other key) : ¬ Spells name key := by
  obtain ⟨halias, hname, hcross⟩ := h.1 other hother
  rintro (rfl | rfl)
  · rcases hkey with heq | heq
    · exact halias heq.symm
    · exact hcross heq
  · rcases hkey with heq | heq
    · exact hname heq.symm
    · -- Two fields of one name have one alias.
      exact halias (congrArg aliasOf heq).symm

/-- A path under a key of another field is numbered among those. -/
theorem Fields.outline_of_not_spells {name key : String} {kind : Kind} {default : Option Json}
    {rest : Fields} (n : Nat) (hkey : ¬ Spells name key) (path : List PathStep) :
    (Fields.cons name kind default rest).outline n (.key key :: path) =
      rest.outline (n + 1) (.key key :: path) := by
  rw [Fields.outline]
  exact if_neg hkey

/-- The position of a field is not before that of the first one. -/
theorem Fields.exists_outline : ∀ {fields : Fields} {name key : String}, name ∈ fields.names →
    Spells name key → ∀ (n : Nat) (path : List PathStep),
      ∃ m tail, n ≤ m ∧ fields.outline n (.key key :: path) = m :: tail
  | .nil, _, _, hname, _, _, _ => absurd hname List.not_mem_nil
  | .cons first kind default rest, name, key, hname, hkey, n, path => by
    by_cases hfirst : Spells first key
    · exact ⟨n, _, Nat.le_refl n, outline_of_spells n hfirst path⟩
    · rcases List.mem_cons.1 hname with rfl | hname
      · exact absurd hkey hfirst
      · obtain ⟨m, tail, hle, hrest⟩ := exists_outline hname hkey (n + 1) path
        exact ⟨m, tail, by omega, (outline_of_not_spells n hfirst path).trans hrest⟩

/-- **A key belongs to one field only** if the keys of different fields are different. -/
theorem Fields.Declares.unique : ∀ {fields : Fields} {name other key : String} {kind otherKind : Kind}
    {default otherDefault : Option Json}, fields.Apart → fields.Declares name kind default →
      fields.Declares other otherKind otherDefault → Spells name key → Spells other key →
        name = other ∧ kind = otherKind
  | .cons _ _ _ _, _, _, _, _, _, _, _, _, .here, .here, _, _ => ⟨rfl, rfl⟩
  | .cons _ _ _ _, _, _, _, _, _, _, _, hapart, .here, .there hother, hkey, hspells =>
    absurd hkey (hapart.not_spells hother.mem_names hspells)
  | .cons _ _ _ _, _, _, _, _, _, _, _, hapart, .there hfield, .here, hkey, hspells =>
    absurd hspells (hapart.not_spells hfield.mem_names hkey)
  | .cons _ _ _ _, _, _, _, _, _, _, _, hapart, .there hfield, .there hother, hkey, hspells =>
    unique hapart.2 hfield hother hkey hspells

end WebhookRegistry.Schema
