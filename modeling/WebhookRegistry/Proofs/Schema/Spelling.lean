/-
  Two objects that a check does not tell apart, and two that it tells apart by their keys only.

  1. **Alike values** (`Kind.Alike`): two values have one shape all the way down, and wherever there are
     two objects their fields stand in a relation that is left open. The values of a field need not be
     equal but alike again, so objects may differ at any depth and in any number of places.

  2. **Three relations** say what may be between the fields of two objects. In terms of looking keys up:
     `Kept` asks that each spelling of a field leads to the same in both objects, whatever other keys
     there are and in whatever order; `Shadowed` asks this of the alias alone where it is present;
     `Renamed` lets a field change its spelling where the other one is absent.

  3. **A check goes by what it locates.** `Shadowed` objects have each field under the same key, so their
     checks are equal (`check_eq_of_alike`). `Renamed` objects have it under one key or the other, so the
     checks agree but for those keys in the paths of the faults (`agree_check_of_alike`).
-/
import Mathlib.Data.List.Forall2
import WebhookRegistry.Proofs.Schema.Verdict

namespace WebhookRegistry.Schema

/-! ## Alike values -/

/-- What may be between the fields of a name in two objects, given what may be between their values. -/
abbrev FieldRelation :=
  String → (Json → Json → Prop) → List (String × Json) → List (String × Json) → Prop

mutual

/-- Whether two values have one shape and their objects have fields in a relation, all the way down. -/
def Kind.Alike (R : FieldRelation) : Kind → Json → Json → Prop
  | .nullable kind, v, w => kind.Alike R v w
  | .list item, .arr xs, .arr ys => List.Forall₂ (item.Alike R) xs ys
  | .record fields, .obj members, .obj others => fields.Alike R members others
  | _, v, w => v = w

/-- Whether the fields of two objects are in a relation. -/
def Fields.Alike (R : FieldRelation) : Fields → List (String × Json) → List (String × Json) → Prop
  | .nil, _, _ => True
  | .cons name kind _ rest, members, others =>
    R name (kind.Alike R) members others ∧ rest.Alike R members others

end

section

variable {R : FieldRelation}

/-- Alike lists are arrays of alike items, or equal. -/
theorem Kind.Alike.list_cases {item : Kind} {v w : Json} (h : (Kind.list item).Alike R v w) :
    (∃ xs ys, v = .arr xs ∧ w = .arr ys ∧ List.Forall₂ (item.Alike R) xs ys) ∨
      (v = w ∧ ∀ items, v ≠ .arr items) := by
  cases v with
  | arr xs =>
    cases w with
    | arr ys => exact Or.inl ⟨xs, ys, rfl, rfl, h⟩
    | _ => cases h
  | _ => exact Or.inr ⟨h, nofun⟩

/-- Alike records are objects with alike fields, or equal. -/
theorem Kind.Alike.record_cases {fields : Fields} {v w : Json} (h : (Kind.record fields).Alike R v w) :
    (∃ members others, v = .obj members ∧ w = .obj others ∧ fields.Alike R members others) ∨
      (v = w ∧ ∀ members, v ≠ .obj members) := by
  cases v with
  | obj members =>
    cases w with
    | obj others => exact Or.inl ⟨members, others, rfl, rfl, h⟩
    | _ => cases h
  | _ => exact Or.inr ⟨h, nofun⟩

/-- Null is alike to null only. -/
theorem Kind.Alike.null_iff : ∀ {kind : Kind} {v w : Json}, kind.Alike R v w → (v = .null ↔ w = .null)
  | .nullable kind, v, w, h => @Kind.Alike.null_iff kind v w h
  | .text _, _, _, h => by rw [show _ = _ from h]
  | .integer, _, _, h => by rw [show _ = _ from h]
  | .list _, _, _, h => by
    obtain ⟨xs, ys, rfl, rfl, -⟩ | ⟨rfl, -⟩ := h.list_cases
    · exact iff_of_false nofun nofun
    · rfl
  | .record _, _, _, h => by
    obtain ⟨members, others, rfl, rfl, -⟩ | ⟨rfl, -⟩ := h.record_cases
    · exact iff_of_false nofun nofun
    · rfl

end

/-! ## What may be between two fields -/

/-- Each spelling of the field is absent from both objects or leads to the same in both. -/
def Kept : FieldRelation := fun name same members others =>
  Option.Rel same (Json.lookup (aliasOf name) members) (Json.lookup (aliasOf name) others) ∧
    Option.Rel same (Json.lookup name members) (Json.lookup name others)

/-- The field is kept, or its alias leads to the same in both objects, whatever is under its name. -/
def Shadowed : FieldRelation := fun name same members others =>
  Kept name same members others ∨
    ∃ v w, Json.lookup (aliasOf name) members = some v ∧ Json.lookup (aliasOf name) others = some w ∧
      same v w

/-- Whether the field is under one key only in one object and under another key only in the other, and
    leads to the same. -/
def Moved (same : Json → Json → Prop) (members others : List (String × Json)) (key key' : String) :
    Prop :=
  ∃ v w, Json.lookup key members = some v ∧ Json.lookup key' members = none ∧
    Json.lookup key' others = some w ∧ Json.lookup key others = none ∧ same v w

/-- The field is kept or shadowed, or it was renamed from one spelling to the other. -/
def Renamed : FieldRelation := fun name same members others =>
  Shadowed name same members others ∨ Moved same members others (aliasOf name) name ∨
    Moved same members others name (aliasOf name)

/-! ## Where a check finds the fields -/

section

variable {name : String} {same : Json → Json → Prop} {members others : List (String × Json)}

/-- Whether both objects lack a field, or have it under one key with values in a relation. -/
def Located : FieldRelation := fun name same members others =>
  (Absent name members ∧ Absent name others) ∨
    ∃ key v w, Present name members key v ∧ Present name others key w ∧ same v w

/-- **A kept field is located under one key.** -/
theorem Kept.located (h : Kept name same members others) : Located name same members others := by
  obtain ⟨halias, hname⟩ := h
  generalize ha : Json.lookup (aliasOf name) members = a at halias
  generalize hb : Json.lookup (aliasOf name) others = b at halias
  generalize hc : Json.lookup name members = c at hname
  generalize hd : Json.lookup name others = d at hname
  cases halias with
  | some h => exact Or.inr ⟨_, _, _, .byAlias ha, .byAlias hb, h⟩
  | none =>
    cases hname with
    | some h => exact Or.inr ⟨_, _, _, .byName ha hc, .byName hb hd, h⟩
    | none => exact Or.inl ⟨⟨ha, hc⟩, hb, hd⟩

/-- **A shadowed field is located under one key.** -/
theorem Shadowed.located (h : Shadowed name same members others) :
    Located name same members others := by
  rcases h with h | ⟨v, w, hv, hw, h⟩
  · exact h.located
  · exact Or.inr ⟨_, v, w, .byAlias hv, .byAlias hw, h⟩

/-- Whether a field has one key in both objects, or another key in each that the other object lacks. -/
def Respelt (members others : List (String × Json)) (key key' : String) : Prop :=
  key = key' ∨ (Json.lookup key' members = none ∧ Json.lookup key others = none)

/-- **A renamed field is located under one key or the other.** -/
theorem Renamed.located (h : Renamed name same members others) :
    (Absent name members ∧ Absent name others) ∨
      ∃ key key' v w, Present name members key v ∧ Present name others key' w ∧
        Respelt members others key key' ∧ same v w := by
  rcases h with h | ⟨v, w, hv, hno, hw, hno', h⟩ | ⟨v, w, hv, hno, hw, hno', h⟩
  · rcases h.located with habsent | ⟨key, v, w, hv, hw, h⟩
    · exact Or.inl habsent
    · exact Or.inr ⟨key, key, v, w, hv, hw, Or.inl rfl, h⟩
  · exact Or.inr ⟨_, _, v, w, .byAlias hv, .byName hno' hw, Or.inr ⟨hno, hno'⟩, h⟩
  · exact Or.inr ⟨_, _, v, w, .byName hno hv, .byAlias hw, Or.inr ⟨hno, hno'⟩, h⟩

end

/-! ## Equal checks -/

theorem checkItems_congr {α : Type} {checkItem : Json → Checked α} {xs ys : List Json}
    (h : List.Forall₂ (fun x y => checkItem x = checkItem y) xs ys) (n : Nat) :
    checkItems checkItem n xs = checkItems checkItem n ys := by
  induction h generalizing n with
  | nil => rfl
  | cons hx _ ih => rw [checkItems, checkItems, hx, ih]

theorem checkEqCases {R : FieldRelation}
    (hR : ∀ name same members others, R name same members others → Located name same members others) :
    KindCases (fun kind => ∀ v w, kind.Alike R v w → check kind v = check kind w)
      (fun fields => ∀ members others, fields.Alike R members others →
        checkFields fields members = checkFields fields others) where
  text minLength v w h := by rw [show v = w from h]
  integer v w h := by rw [show v = w from h]
  nullable kind ih v w h := by
    have hkind : kind.Alike R v w := h
    by_cases hv : v = .null
    · rw [hv, hkind.null_iff.1 hv]
    · rw [check_nullable kind hv, check_nullable kind (mt hkind.null_iff.2 hv), ih v w hkind]
  list item ih v w h := by
    obtain ⟨xs, ys, rfl, rfl, hitems⟩ | ⟨rfl, -⟩ := h.list_cases
    · exact checkItems_congr (hitems.imp fun x y hxy => ih x y hxy) 0
    · rfl
  record fields ih v w h := by
    obtain ⟨members, others, rfl, rfl, hfields⟩ | ⟨rfl, -⟩ := h.record_cases
    · exact ih members others hfields
    · rfl
  nil members others _ := rfl
  cons name kind default rest ihKind ihRest members others h := by
    have hrest := ihRest members others h.2
    rcases hR _ _ _ _ h.1 with ⟨habsent, habsent'⟩ | ⟨key, v, w, hv, hw, hsame⟩
    · rw [checkFields_cons_of_absent habsent, checkFields_cons_of_absent habsent', hrest]
    · rw [checkFields_cons_of_present hv, checkFields_cons_of_present hw, ihKind v w hsame, hrest]

/-- **Values whose fields are located alike are checked alike.** -/
theorem check_eq_of_alike {R : FieldRelation}
    (hR : ∀ name same members others, R name same members others → Located name same members others)
    {kind : Kind} {v w : Json} (h : kind.Alike R v w) : check kind v = check kind w :=
  (checkEqCases hR).kind kind v w h

/-! ## Checks that agree up to spelling -/

/-- Whether two paths lead through two values by the same fields and items, each field under the key that
    it has in its object. -/
inductive SameWay : Kind → Json → Json → List PathStep → List PathStep → Prop where
  | here {kind : Kind} {v w : Json} : SameWay kind v w [] []
  | nullable {kind : Kind} {v w : Json} {p q : List PathStep} (h : SameWay kind v w p q) :
      SameWay (.nullable kind) v w p q
  | item {item : Kind} {xs ys : List Json} {n : Nat} {x y : Json} {p q : List PathStep}
      (hx : xs[n]? = some x) (hy : ys[n]? = some y) (h : SameWay item x y p q) :
      SameWay (.list item) (.arr xs) (.arr ys) (.index n :: p) (.index n :: q)
  | field {fields : Fields} {members others : List (String × Json)} {name key key' : String}
      {kind : Kind} {default : Option Json} {v w : Json} {p q : List PathStep}
      (hfield : fields.Declares name kind default) (hv : Present name members key v)
      (hw : Present name others key' w) (hkey : Respelt members others key key')
      (h : SameWay kind v w p q) :
      SameWay (.record fields) (.obj members) (.obj others) (.key key :: p) (.key key' :: q)
  | missing {fields : Fields} {members others : List (String × Json)} {name : String} {kind : Kind}
      (hfield : fields.Declares name kind none) (hv : Absent name members) (hw : Absent name others) :
      SameWay (.record fields) (.obj members) (.obj others) [.key (aliasOf name)] [.key (aliasOf name)]

/-- Fields further back lead the same way. -/
theorem SameWay.there {name : String} {kind : Kind} {default : Option Json} {rest : Fields}
    {members others : List (String × Json)} {p q : List PathStep}
    (h : SameWay (.record rest) (.obj members) (.obj others) p q) :
    SameWay (.record (.cons name kind default rest)) (.obj members) (.obj others) p q := by
  cases h with
  | here => exact .here
  | field hfield hv hw hkey h => exact .field (.there hfield) hv hw hkey h
  | missing hfield hv hw => exact .missing (.there hfield) hv hw

namespace Checked

variable {α β : Type} {rel rel' : List PathStep → List PathStep → Prop}

/-- Whether faults come in pairs of one cause, at places that are in a relation. -/
def Paired (rel : List PathStep → List PathStep → Prop) (faults more : List Fault) : Prop :=
  List.Forall₂ (fun f g => f.cause = g.cause ∧ rel f.path g.path) faults more

/-- Whether two results are one value, or faults in pairs. -/
inductive Agree (rel : List PathStep → List PathStep → Prop) : Checked α → Checked α → Prop where
  | ok (a : α) : Agree rel (.ok a) (.ok a)
  | error {faults more : List Fault} (h : Paired rel faults more) : Agree rel (.error faults) (.error more)

theorem Agree.imp {p q : Checked α} (h : Agree rel p q) (hrel : ∀ a b, rel a b → rel' a b) :
    Agree rel' p q := by
  cases h with
  | ok a => exact .ok a
  | error h => exact .error (h.imp fun _ _ hfg => ⟨hfg.1, hrel _ _ hfg.2⟩)

/-- One step further from the root. -/
theorem Agree.under {p q : Checked α} {step step' : PathStep}
    (h : Agree (fun a b => rel (step :: a) (step' :: b)) p q) :
    Agree rel (p.under step) (q.under step') := by
  cases h with
  | ok a => exact .ok a
  | error h => exact .error (List.forall₂_map_left_iff.2 (List.forall₂_map_right_iff.2 h))

theorem Agree.both {p p' : Checked α} {q q' : Checked β} (hp : Agree rel p p') (hq : Agree rel q q') :
    Agree rel (both p q) (both p' q') := by
  cases hp with
  | ok a =>
    cases hq with
    | ok b => exact .ok (a, b)
    | error h => exact .error h
  | error h =>
    cases hq with
    | ok b => exact .error h
    | error h' => exact .error (List.rel_append h h')

end Checked

open Checked (Agree)

theorem agree_checkItems {α : Type} {checkItem : Json → Checked α} {same : Json → Json → Prop}
    {rel : List PathStep → List PathStep → Prop} {xs ys : List Json} (h : List.Forall₂ same xs ys) (n : Nat)
    (hitem : ∀ i x y, xs[i]? = some x → ys[i]? = some y → same x y →
      Agree (fun a b => rel (.index (n + i) :: a) (.index (n + i) :: b)) (checkItem x) (checkItem y)) :
    Agree rel (checkItems checkItem n xs) (checkItems checkItem n ys) := by
  induction h generalizing n with
  | nil => exact .ok []
  | @cons x y xs ys hxy _ ih =>
    have hfirst := (hitem 0 x y rfl rfl hxy).under
    have hrest : Agree rel (checkItems checkItem (n + 1) xs) (checkItems checkItem (n + 1) ys) := by
      refine ih (n + 1) fun i x y hx hy hxy => ?_
      rw [Nat.add_assoc, Nat.add_comm 1 i]
      exact hitem (i + 1) x y hx hy hxy
    have hboth := hfirst.both hrest
    rw [checkItems, checkItems]
    generalize Checked.both ((checkItem x).under (.index n)) (checkItems checkItem (n + 1) xs) = p at hboth
    generalize Checked.both ((checkItem y).under (.index n)) (checkItems checkItem (n + 1) ys) = q at hboth
    cases hboth with
    | ok pair => exact .ok _
    | error h => exact .error h

/-- A value without parts has its fault at the value itself. -/
theorem agree_of_isLeaf {kind : Kind} (hkind : kind.IsLeaf) {v w : Json} (h : v = w) :
    Agree (SameWay kind v w) (check kind v) (check kind w) := by
  subst h
  rcases hkind v with ⟨⟨a, ha⟩, -⟩ | ⟨cause, hill⟩
  · rw [ha]
    exact .ok a
  · rw [hill.check_eq]
    exact .error (.cons ⟨rfl, .here⟩ .nil)

theorem agreeCases : KindCases
    (fun kind => kind.WellFormed → ∀ v w, kind.Alike Renamed v w →
      Agree (SameWay kind v w) (check kind v) (check kind w))
    (fun fields => fields.WellFormed → ∀ members others, fields.Alike Renamed members others →
      Agree (SameWay (.record fields) (.obj members) (.obj others)) (checkFields fields members)
        (checkFields fields others)) where
  text minLength _ v w h := agree_of_isLeaf (isLeaf_text minLength) h
  integer _ v w h := agree_of_isLeaf isLeaf_integer h
  nullable kind ih hkind v w h := by
    have halike : kind.Alike Renamed v w := h
    by_cases hv : v = .null
    · rw [hv, halike.null_iff.1 hv]
      exact .ok none
    · have hagree := (ih hkind v w halike).imp fun _ _ => SameWay.nullable
      rw [check_nullable kind hv, check_nullable kind (mt halike.null_iff.2 hv)]
      generalize check kind v = p at hagree
      generalize check kind w = q at hagree
      cases hagree with
      | ok a => exact .ok (some a)
      | error h => exact .error h
  list item ih hitem v w h := by
    obtain ⟨xs, ys, rfl, rfl, hitems⟩ | ⟨rfl, hne⟩ := h.list_cases
    · refine agree_checkItems hitems 0 fun i x y hx hy hxy => ?_
      rw [Nat.zero_add]
      exact (ih hitem x y hxy).imp fun _ _ => SameWay.item hx hy
    · rw [(IllTyped.notList hne).check_eq]
      exact .error (.cons ⟨rfl, .here⟩ .nil)
  record fields ih hfields v w h := by
    obtain ⟨members, others, rfl, rfl, hfields'⟩ | ⟨rfl, hne⟩ := h.record_cases
    · exact ih hfields.2 members others hfields'
    · rw [(IllTyped.notRecord hne).check_eq]
      exact .error (.cons ⟨rfl, .here⟩ .nil)
  nil _ members others _ := .ok ()
  cons name kind default rest ihKind ihRest hwf members others h := by
    obtain ⟨hkind, hdefault, hrest⟩ := hwf
    have hmore : Agree (SameWay (.record (.cons name kind default rest)) (.obj members) (.obj others))
        (checkFields rest members) (checkFields rest others) :=
      (ihRest hrest members others h.2).imp fun _ _ => .there
    rcases h.1.located with ⟨habsent, habsent'⟩ | ⟨key, key', v, w, hv, hw, hkey, hsame⟩
    · rw [checkFields_cons_of_absent habsent, checkFields_cons_of_absent habsent']
      refine Agree.both ?_ hmore
      cases default with
      | some d =>
        obtain ⟨a, ha⟩ := hdefault d rfl
        dsimp only
        rw [ha]
        exact .ok a
      | none => exact .error (.cons ⟨rfl, .missing .here habsent habsent'⟩ .nil)
    · rw [checkFields_cons_of_present hv, checkFields_cons_of_present hw]
      exact Agree.both ((ihKind hkind v w hsame).imp fun _ _ => .field .here hv hw hkey).under hmore

/-- **Values whose fields were renamed have checks that agree** but for the names. -/
theorem agree_check_of_alike {kind : Kind} (hkind : kind.WellFormed) {v w : Json}
    (h : kind.Alike Renamed v w) : Agree (SameWay kind v w) (check kind v) (check kind w) :=
  agreeCases.kind kind hkind v w h

end WebhookRegistry.Schema
