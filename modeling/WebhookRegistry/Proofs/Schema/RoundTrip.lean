/-
  Values of a schema read back from the JSON that is sent.

  In the layout that is sent a field stands under its alias, and a field that is null is left out. Two
  things bring it back. A field that is there is found under its alias, because no key of another field
  gets in the way (`Fields.Apart`); a field that was left out is found under neither of its keys, and its
  default takes its place. `checkFields_encodeFields` puts the fields of a record together: if each field
  comes back as some value (`FieldBack`), the record comes back as the tuple of those.

  The kinds of single values need one short lemma each, so a concrete record is read back by naming the
  lemmas of its fields.
-/
import WebhookRegistry.Schema.Encode

namespace WebhookRegistry.Schema

/-! ## Single values -/

/-- Whether a value that is sent comes back as another one. -/
def Back (kind : Kind) (sent received : kind.Carrier) : Prop :=
  check kind (encode .wire kind sent) = .ok received

theorem text_ne_null (minLength : Nat) (s : (Kind.text minLength).Carrier) :
    encode .wire (.text minLength) s ≠ .null :=
  fun h => Json.noConfusion (show Json.str s = .null from h)

theorem integer_ne_null (n : Int) : encode .wire .integer n ≠ .null :=
  fun h => Json.noConfusion (show Json.int n = .null from h)

theorem list_ne_null (item : Kind) (xs : (Kind.list item).Carrier) :
    encode .wire (.list item) xs ≠ .null :=
  fun h => Json.noConfusion (show Json.arr (List.map (encode .wire item) xs) = .null from h)

theorem record_ne_null (fields : Fields) (x : (Kind.record fields).Carrier) :
    encode .wire (.record fields) x ≠ .null :=
  fun h => Json.noConfusion (show Json.obj (encodeFields .wire fields x) = .null from h)

theorem back_text {minLength : Nat} {s : String} (h : minLength ≤ s.length) :
    Back (.text minLength) s s := by
  unfold Back
  rw [encode_text, check_text, if_neg (by omega)]

theorem back_integer (n : Int) : Back .integer n n := rfl

/-- A value that is not sent as a null is no null when it comes back. -/
theorem back_some {kind : Kind} {a b : kind.Carrier} (hnull : encode .wire kind a ≠ .null)
    (h : Back kind a b) : Back (.nullable kind) (some a) (some b) := by
  unfold Back at h ⊢
  rw [encode_some, check_nullable kind hnull, h]

theorem checkItems_map {α : Type} {checkItem : Json → Checked α} {encodeItem : α → Json}
    {items : List α} (h : ∀ a ∈ items, checkItem (encodeItem a) = .ok a) (n : Nat) :
    checkItems checkItem n (items.map encodeItem) = .ok items := by
  induction items generalizing n with
  | nil => rfl
  | cons a items ih =>
    rw [List.map_cons, checkItems, h a List.mem_cons_self,
      ih (fun b hb => h b (List.mem_cons_of_mem a hb)) (n + 1)]
    rfl

/-- **A list comes back** if its items do. -/
theorem back_list {item : Kind} {xs : List item.Carrier} (h : ∀ x ∈ xs, Back item x x) :
    Back (.list item) xs xs := by
  unfold Back
  rw [encode_list, check_arr]
  exact checkItems_map h 0

/-! ## Records -/

/-- The names of the fields of a record. -/
def Fields.names : Fields → List String
  | .nil => []
  | .cons name _ _ rest => name :: rest.names

/-- Whether the keys of different fields are different: no alias of one field is an alias or a name of
    another one. -/
def Fields.Apart : Fields → Prop
  | .nil => True
  | .cons name _ _ rest =>
    (∀ other ∈ rest.names, aliasOf other ≠ aliasOf name ∧ aliasOf other ≠ name ∧ aliasOf name ≠ other) ∧
      rest.Apart

/-- Whether the keys are apart is decided field by field. -/
def Fields.decidableApart : (fields : Fields) → Decidable fields.Apart
  | .nil => isTrue trivial
  | .cons _ _ _ rest =>
    have : Decidable rest.Apart := rest.decidableApart
    inferInstanceAs (Decidable (_ ∧ _))

instance (fields : Fields) : Decidable fields.Apart := fields.decidableApart

/-- Whether a field comes back as a value: from its default if it was left out, else from what was
    sent. -/
def FieldBack (kind : Kind) (default : Option Json) (sent received : kind.Carrier) : Prop :=
  (encode .wire kind sent = .null ∧ ∃ d, default = some d ∧ check kind d = .ok received) ∨
    (encode .wire kind sent ≠ .null ∧ Back kind sent received)

/-- Whether all fields of a record come back as given. -/
def FieldsBack : (fields : Fields) → fields.Carrier → fields.Carrier → Prop
  | .nil, _, _ => True
  | .cons _ kind default rest, x, y => FieldBack kind default x.1 y.1 ∧ FieldsBack rest x.2 y.2

/-- A field whose default is null comes back whatever it holds. -/
theorem fieldBack_nullable {kind : Kind} {x : Option kind.Carrier}
    (h : ∀ a, x = some a → encode .wire kind a ≠ .null ∧ Back kind a a) :
    FieldBack (.nullable kind) (some .null) x x := by
  cases x with
  | none => exact Or.inl ⟨rfl, .null, rfl, rfl⟩
  | some a =>
    obtain ⟨hnull, hback⟩ := h a rfl
    exact Or.inr ⟨hnull, back_some hnull hback⟩

/-- Only the aliases of the fields are keys of what is sent. -/
theorem lookup_encodeFields {key : String} : ∀ {fields : Fields} {x : fields.Carrier},
    (∀ name ∈ fields.names, aliasOf name ≠ key) →
      Json.lookup key (encodeFields .wire fields x) = none
  | .nil, _, _ => rfl
  | .cons name kind default rest, x, h => by
    have hrest : Json.lookup key (encodeFields .wire rest x.2) = none :=
      lookup_encodeFields fun other hother => h other (List.mem_cons_of_mem name hother)
    rw [encodeFields_cons]
    by_cases hnull : encode .wire kind x.1 = .null
    · rw [hnull]
      exact hrest
    · rw [addMember_wire name hnull, Json.lookup, hrest]
      exact if_neg (h name List.mem_cons_self)

/-- **The fields of a record come back together**, in front of them any members that have none of their
    keys. The induction is on the fields; a field that is done joins the members in front. -/
theorem checkFields_encodeFields : ∀ {fields : Fields} {x y : fields.Carrier}
    (front : List (String × Json)), fields.Apart →
      (∀ name ∈ fields.names,
        Json.lookup (aliasOf name) front = none ∧ Json.lookup name front = none) →
      FieldsBack fields x y →
        checkFields fields (front ++ encodeFields .wire fields x) = .ok y
  | .nil, _, _, _, _, _, _ => rfl
  | .cons name kind default rest, x, y, front, hapart, hfront, ⟨hfield, hrest⟩ => by
    obtain ⟨hother, hapart⟩ := hapart
    have halias : Json.lookup (aliasOf name) (encodeFields .wire rest x.2) = none :=
      lookup_encodeFields fun other h => (hother other h).1
    have hname : Json.lookup name (encodeFields .wire rest x.2) = none :=
      lookup_encodeFields fun other h => (hother other h).2.1
    obtain ⟨hfrontAlias, hfrontName⟩ := hfront name List.mem_cons_self
    have hfrontRest : ∀ other ∈ rest.names,
        Json.lookup (aliasOf other) front = none ∧ Json.lookup other front = none :=
      fun other h => hfront other (List.mem_cons_of_mem name h)
    rw [encodeFields_cons, checkFields_cons]
    rcases hfield with ⟨hnull, d, rfl, hcheck⟩ | ⟨hnull, hback⟩
    · -- The field was left out: it is under neither key.
      have hlocate : locate name (front ++ encodeFields .wire rest x.2) = none := by
        unfold locate
        rw [Json.lookup_append, Json.lookup_append, halias, hname, hfrontAlias, hfrontName]
        rfl
      rw [hnull, addMember_null, hlocate,
        checkFields_encodeFields front hapart hfrontRest hrest]
      dsimp only
      rw [hcheck]
      rfl
    · -- The field was sent: it is under its alias, which the other fields do not have as a key.
      rw [addMember_wire name hnull]
      have hlocate : locate name (front ++ (aliasOf name, encode .wire kind x.1) ::
          encodeFields .wire rest x.2) = some (aliasOf name, encode .wire kind x.1) := by
        unfold locate
        rw [Json.lookup_append, Json.lookup, halias, if_pos rfl]
        rfl
      have hfront' : ∀ other ∈ rest.names,
          Json.lookup (aliasOf other) (front ++ [(aliasOf name, encode .wire kind x.1)]) = none ∧
            Json.lookup other (front ++ [(aliasOf name, encode .wire kind x.1)]) = none := by
        intro other h
        have hne := hother other h
        rw [Json.lookup_append, Json.lookup_append, (hfrontRest other h).1, (hfrontRest other h).2]
        simp [Json.lookup, hne.1.symm, hne.2.2]
      have hmore := checkFields_encodeFields (front ++ [(aliasOf name, encode .wire kind x.1)])
        hapart hfront' hrest
      rw [List.append_assoc, List.singleton_append] at hmore
      rw [hlocate, hmore]
      dsimp only
      unfold Back at hback
      rw [hback]
      rfl

/-- **A record comes back** if its fields do. -/
theorem back_record {fields : Fields} {x y : fields.Carrier} (hapart : fields.Apart)
    (h : FieldsBack fields x y) : Back (.record fields) x y := by
  unfold Back
  rw [encode_record, check_obj]
  have hback := checkFields_encodeFields [] hapart (fun _ _ => ⟨rfl, rfl⟩) h
  rw [List.nil_append] at hback
  exact hback

end WebhookRegistry.Schema
