/-
  The faults that a check gathers, one way of checking at a time.

  A result of a check is a value or a list of faults (`Checked.faults`), and a refusal should give a reason
  (`Checked.HasReason`). What follows says when a check passes and which faults it has otherwise:

  1. **Lists and fields** pass on the faults of their parts, one step further from the root.

  2. **Kinds without parts** either take a value or find it to be of the wrong type (`Kind.IsLeaf`), and
     then this is the only fault.

  Putting these together is an induction on kinds, whose cases are the fields of `KindCases`. A kind is
  well-formed if the keys of different fields are different and every default passes its own check
  (`Kind.WellFormed`).
-/
import WebhookRegistry.Proofs.Schema.Places

namespace WebhookRegistry.Schema

/-! ## Induction on kinds -/

/-- The cases of an induction on kinds and on the fields of records. -/
structure KindCases (motive : Kind → Prop) (fieldsMotive : Fields → Prop) : Prop where
  text : ∀ minLength, motive (.text minLength)
  integer : motive .integer
  nullable : ∀ kind, motive kind → motive (.nullable kind)
  list : ∀ item, motive item → motive (.list item)
  record : ∀ fields, fieldsMotive fields → motive (.record fields)
  nil : fieldsMotive .nil
  cons : ∀ name kind default rest, motive kind → fieldsMotive rest →
    fieldsMotive (.cons name kind default rest)

mutual

theorem KindCases.kind {motive : Kind → Prop} {fieldsMotive : Fields → Prop}
    (cases : KindCases motive fieldsMotive) : ∀ kind : Kind, motive kind
  | .text minLength => cases.text minLength
  | .integer => cases.integer
  | .nullable kind => cases.nullable kind (cases.kind kind)
  | .list item => cases.list item (cases.kind item)
  | .record fields => cases.record fields (cases.fields fields)

theorem KindCases.fields {motive : Kind → Prop} {fieldsMotive : Fields → Prop}
    (cases : KindCases motive fieldsMotive) : ∀ fields : Fields, fieldsMotive fields
  | .nil => cases.nil
  | .cons name kind default rest =>
    cases.cons name kind default rest (cases.kind kind) (cases.fields rest)

end

/-! ## Well-formed kinds -/

mutual

/-- Whether, all the way down, the keys of different fields are different and every default passes its
    own check. -/
def Kind.WellFormed : Kind → Prop
  | .nullable kind => kind.WellFormed
  | .list item => item.WellFormed
  | .record fields => fields.Apart ∧ fields.WellFormed
  | _ => True

/-- Whether the kinds of fields are well-formed and their defaults pass. -/
def Fields.WellFormed : Fields → Prop
  | .nil => True
  | .cons _ kind default rest =>
    kind.WellFormed ∧ (∀ d, default = some d → ∃ a, check kind d = .ok a) ∧ rest.WellFormed

end

section

variable {name : String} {kind : Kind} {rest : Fields}

/-- A required field has no default to be checked. -/
theorem Fields.WellFormed.required (hkind : kind.WellFormed) (hrest : rest.WellFormed) :
    (Fields.cons name kind none rest).WellFormed :=
  ⟨hkind, nofun, hrest⟩

theorem Fields.WellFormed.optional {d : Json} {a : kind.Carrier} (hdefault : check kind d = .ok a)
    (hkind : kind.WellFormed) (hrest : rest.WellFormed) :
    (Fields.cons name kind (some d) rest).WellFormed :=
  ⟨hkind, fun _ h => ⟨a, Option.some.inj h ▸ hdefault⟩, hrest⟩

end

/-- The kinds of the fields of a well-formed record are well-formed. -/
theorem Fields.WellFormed.kind {fields : Fields} {name : String} {kind : Kind} {default : Option Json}
    (h : fields.WellFormed) (hfield : fields.Declares name kind default) : kind.WellFormed := by
  induction hfield with
  | here => exact h.1
  | there _ ih => exact ih h.2.2

/-! ## The faults of a result -/

namespace Checked

variable {α β : Type}

/-- The faults of a result; a value has none. -/
def faults : Checked α → List Fault
  | .ok _ => []
  | .error faults => faults

theorem faults_under (step : PathStep) (p : Checked α) :
    (p.under step).faults = p.faults.map fun f => { f with path := step :: f.path } := by
  cases p <;> rfl

theorem faults_both (p : Checked α) (q : Checked β) : (both p q).faults = p.faults ++ q.faults := by
  cases p with
  | ok a => cases q <;> rfl
  | error faults =>
    cases q with
    | ok b => exact (List.append_nil faults).symm
    | error more => rfl

/-- The faults one step further from the root. -/
theorem mem_faults_under {step : PathStep} {p : Checked α} {path : List PathStep} {cause : Cause} :
    ⟨path, cause⟩ ∈ (p.under step).faults ↔ ∃ rest, path = step :: rest ∧ ⟨rest, cause⟩ ∈ p.faults := by
  rw [faults_under, List.mem_map]
  constructor
  · rintro ⟨⟨rest, c⟩, hmem, heq⟩
    cases heq
    exact ⟨rest, rfl, hmem⟩
  · rintro ⟨rest, rfl, hmem⟩
    exact ⟨_, hmem, rfl⟩

/-- Whether a refusal gives a reason: it has a fault. -/
def HasReason (p : Checked α) : Prop := p ≠ .error []

theorem hasReason_ok (a : α) : HasReason (.ok a : Checked α) := nofun

theorem hasReason_fault (cause : Cause) : HasReason (fault cause : Checked α) := nofun

theorem HasReason.under {p : Checked α} (h : p.HasReason) (step : PathStep) : (p.under step).HasReason := by
  cases p with
  | ok a => exact hasReason_ok a
  | error faults =>
    intro heq
    exact h (congrArg _ (List.map_eq_nil_iff.1 (Except.error.inj heq)))

theorem HasReason.both {p : Checked α} {q : Checked β} (hp : p.HasReason) (hq : q.HasReason) :
    (both p q).HasReason := by
  cases p with
  | ok a =>
    cases q with
    | ok b => exact hasReason_ok (a, b)
    | error more => exact fun heq => hq (congrArg _ (Except.error.inj heq))
  | error faults =>
    cases q with
    | ok b => exact fun heq => hp (congrArg _ (Except.error.inj heq))
    | error more =>
      intro heq
      exact hp (congrArg _ (List.append_eq_nil_iff.1 (Except.error.inj heq)).1)

/-- A single fault lies at the place itself. -/
theorem mem_faults_fault {path : List PathStep} {cause c : Cause} :
    ⟨path, cause⟩ ∈ (fault c : Checked α).faults ↔ path = [] ∧ cause = c := by
  rw [show (fault c : Checked α).faults = [⟨[], c⟩] from rfl, List.mem_singleton, Fault.mk.injEq]

theorem exists_both_iff {p : Checked α} {q : Checked β} :
    (∃ x, both p q = .ok x) ↔ (∃ a, p = .ok a) ∧ ∃ b, q = .ok b := by
  simp only [both_eq_ok_iff]
  exact ⟨fun ⟨x, hp, hq⟩ => ⟨⟨x.1, hp⟩, x.2, hq⟩, fun ⟨⟨a, hp⟩, b, hq⟩ => ⟨(a, b), hp, hq⟩⟩

end Checked

/-! ## Lists -/

section

variable {α : Type} {checkItem : Json → Checked α}

theorem faults_checkItems_cons (n : Nat) (x : Json) (rest : List Json) :
    (checkItems checkItem n (x :: rest)).faults =
      ((checkItem x).under (.index n)).faults ++ (checkItems checkItem (n + 1) rest).faults := by
  rw [checkItems, ← Checked.faults_both]
  cases Checked.both ((checkItem x).under (.index n)) (checkItems checkItem (n + 1) rest) <;> rfl

/-- **A list passes if its items do.** -/
theorem exists_checkItems_iff {items : List Json} (n : Nat) :
    (∃ as, checkItems checkItem n items = .ok as) ↔ ∀ x ∈ items, ∃ a, checkItem x = .ok a := by
  induction items generalizing n with
  | nil => exact iff_of_true ⟨[], rfl⟩ fun _ hx => absurd hx List.not_mem_nil
  | cons x rest ih =>
    rw [List.forall_mem_cons, ← ih (n + 1), checkItems]
    constructor
    · rintro ⟨as, has⟩
      split at has
      · next a more hboth =>
        obtain ⟨hx, hrest⟩ := Checked.both_eq_ok_iff.1 hboth
        exact ⟨⟨a, Checked.under_eq_ok_iff.1 hx⟩, more, hrest⟩
      · cases has
    · rintro ⟨⟨a, hx⟩, more, hrest⟩
      rw [hx, hrest]
      exact ⟨a :: more, rfl⟩

theorem hasReason_checkItems (h : ∀ v, (checkItem v).HasReason) (n : Nat) (items : List Json) :
    (checkItems checkItem n items).HasReason := by
  induction items generalizing n with
  | nil => exact Checked.hasReason_ok []
  | cons x rest ih =>
    have hboth := ((h x).under (.index n)).both (ih (n + 1))
    rw [checkItems]
    cases hresult : Checked.both ((checkItem x).under (.index n)) (checkItems checkItem (n + 1) rest) with
    | ok pair => exact Checked.hasReason_ok (pair.1 :: pair.2)
    | error faults =>
      rw [hresult] at hboth
      exact fun heq => hboth (congrArg _ (Except.error.inj heq))

/-- **The faults of a list are those of its items**, each under its index. -/
theorem mem_faults_checkItems {n : Nat} {items : List Json} {path : List PathStep} {cause : Cause} :
    ⟨path, cause⟩ ∈ (checkItems checkItem n items).faults ↔
      ∃ i x rest, items[i]? = some x ∧ path = .index (n + i) :: rest ∧
        ⟨rest, cause⟩ ∈ (checkItem x).faults := by
  induction items generalizing n with
  | nil =>
    refine iff_of_false List.not_mem_nil ?_
    rintro ⟨i, x, rest, hx, -⟩
    cases hx
  | cons first items ih =>
    rw [faults_checkItems_cons, List.mem_append, Checked.mem_faults_under, ih]
    constructor
    · rintro (⟨rest, rfl, hmem⟩ | ⟨i, x, rest, hx, rfl, hmem⟩)
      · exact ⟨0, first, rest, rfl, rfl, hmem⟩
      · exact ⟨i + 1, x, rest, hx, by rw [Nat.add_assoc, Nat.add_comm 1 i], hmem⟩
    · rintro ⟨i, x, rest, hx, rfl, hmem⟩
      cases i with
      | zero =>
        cases hx
        exact Or.inl ⟨rest, rfl, hmem⟩
      | succ i => exact Or.inr ⟨i, x, rest, hx, by rw [Nat.add_assoc, Nat.add_comm 1 i], hmem⟩

/-- The faults of a list are in order if those of each item are. -/
theorem pairwise_faults_checkItems {item : Kind}
    (h : ∀ v, (checkItem v).faults.Pairwise fun f g => item.outline f.path < item.outline g.path) (n : Nat)
    (items : List Json) :
    (checkItems checkItem n items).faults.Pairwise fun f g =>
      (Kind.list item).outline f.path < (Kind.list item).outline g.path := by
  induction items generalizing n with
  | nil => exact List.Pairwise.nil
  | cons x rest ih =>
    rw [faults_checkItems_cons, List.pairwise_append]
    refine ⟨?_, ih (n + 1), ?_⟩
    · rw [Checked.faults_under, List.pairwise_map]
      exact (h x).imp fun hlt => List.cons_lt_cons_iff.2 (Or.inr ⟨rfl, hlt⟩)
    · rintro ⟨path, cause⟩ hf ⟨path', cause'⟩ hg
      obtain ⟨tail, rfl, -⟩ := Checked.mem_faults_under.1 hf
      obtain ⟨i, y, tail', -, rfl, -⟩ := mem_faults_checkItems.1 hg
      exact List.cons_lt_cons_iff.2 (Or.inl (by omega))

end

/-! ## Fields -/

section

variable {name : String} {kind : Kind} {default : Option Json} {rest : Fields}
variable {members : List (String × Json)}

/-- A field that is present is checked by its value. -/
theorem checkFields_cons_of_present {key : String} {v : Json} (h : Present name members key v) :
    checkFields (.cons name kind default rest) members =
      Checked.both ((check kind v).under (.key key)) (checkFields rest members) := by
  rw [checkFields_cons, locate_eq_some_iff.2 h]

/-- A field that is absent is checked by its default, or else it is missing. -/
theorem checkFields_cons_of_absent (h : Absent name members) :
    checkFields (.cons name kind default rest) members =
      Checked.both
        (match default with
        | some d => check kind d
        | none => (Checked.fault .missing).under (.key (aliasOf name)))
        (checkFields rest members) := by
  have hlocate : locate name members = none := locate_eq_none_iff.2 h
  refine (checkFields_cons name kind default rest members).trans ?_
  generalize locate name members = found at hlocate ⊢
  subst hlocate
  rfl

/-- A field that is not absent is present. -/
theorem absent_or_present (name : String) (members : List (String × Json)) :
    Absent name members ∨ ∃ key v, Present name members key v := by
  cases hlocate : locate name members with
  | none => exact Or.inl (locate_eq_none_iff.1 hlocate)
  | some found => exact Or.inr ⟨found.1, found.2, locate_eq_some_iff.1 hlocate⟩

/-- **What a check makes of the first field**: it checks the value that is present, or else the default,
    or else it misses the field. -/
theorem checkFields_cons_cases (name : String) (kind : Kind) (default : Option Json) (rest : Fields)
    (members : List (String × Json)) :
    ∃ first : Checked kind.Carrier,
      checkFields (.cons name kind default rest) members = Checked.both first (checkFields rest members) ∧
        ((∃ key v, Present name members key v ∧ first = (check kind v).under (.key key)) ∨
          (Absent name members ∧ ∃ d, default = some d ∧ first = check kind d) ∨
          (Absent name members ∧ default = none ∧
            first = (Checked.fault .missing).under (.key (aliasOf name)))) := by
  rcases absent_or_present name members with habsent | ⟨key, v, hv⟩
  · refine ⟨_, checkFields_cons_of_absent habsent, Or.inr ?_⟩
    cases default with
    | some d => exact Or.inl ⟨habsent, d, rfl, rfl⟩
    | none => exact Or.inr ⟨habsent, rfl, rfl⟩
  · exact ⟨_, checkFields_cons_of_present hv, Or.inl ⟨key, v, hv, rfl⟩⟩

/-- The faults of the first field go in front. -/
theorem faults_checkFields_cons {first : Checked kind.Carrier}
    (h : checkFields (.cons name kind default rest) members =
      Checked.both first (checkFields rest members)) :
    (checkFields (.cons name kind default rest) members).faults =
      first.faults ++ (checkFields rest members).faults :=
  (congrArg Checked.faults h).trans (Checked.faults_both first (checkFields rest members))

theorem exists_checkFields_cons_iff {first : Checked kind.Carrier}
    (h : checkFields (.cons name kind default rest) members =
      Checked.both first (checkFields rest members)) :
    (∃ x, checkFields (.cons name kind default rest) members = .ok x) ↔
      (∃ a, first = .ok a) ∧ ∃ b, checkFields rest members = .ok b := by
  rw [h]
  exact Checked.exists_both_iff

/-- A field is not both present and absent. -/
theorem Present.not_absent {key : String} {v : Json} (h : Present name members key v) :
    ¬ Absent name members := by
  rintro ⟨halias, hname⟩
  cases h with
  | byAlias h =>
    rw [halias] at h
    cases h
  | byName _ h =>
    rw [hname] at h
    cases h

/-- A field is present under one key only and with one value. -/
theorem Present.unique {key key' : String} {v v' : Json} (h : Present name members key v)
    (h' : Present name members key' v') : key = key' ∧ v = v' := by
  have heq := (locate_eq_some_iff.2 h).symm.trans (locate_eq_some_iff.2 h')
  cases heq
  exact ⟨rfl, rfl⟩

/-- Whether an object has the fields of a record: each that is present of its kind, and all that are
    required. -/
def FieldsAccept (fields : Fields) (members : List (String × Json)) : Prop :=
  (∀ name kind default key v, fields.Declares name kind default → Present name members key v →
    Accepts kind v) ∧ ∀ name kind, fields.Declares name kind none → ¬ Absent name members

theorem fieldsAccept_cons_iff :
    FieldsAccept (.cons name kind default rest) members ↔
      ((∀ key v, Present name members key v → Accepts kind v) ∧
        (default = none → ¬ Absent name members)) ∧ FieldsAccept rest members := by
  constructor
  · rintro ⟨hpresent, hrequired⟩
    refine ⟨⟨fun key v hv => hpresent _ _ _ key v .here hv, ?_⟩, ?_, ?_⟩
    · rintro rfl
      exact hrequired _ _ .here
    · exact fun other k d key v hfield hv => hpresent other k d key v (.there hfield) hv
    · exact fun other k hfield => hrequired other k (.there hfield)
  · rintro ⟨⟨hfirst, hneeded⟩, hpresent, hrequired⟩
    refine ⟨?_, ?_⟩
    · intro other k d key v hfield hv
      cases hfield with
      | here => exact hfirst key v hv
      | there hfield => exact hpresent other k d key v hfield hv
    · intro other k hfield
      cases hfield with
      | here => exact hneeded rfl
      | there hfield => exact hrequired other k hfield

end

/-! ## Whole numbers -/

theorem IsInteger.exists_checkInteger {v : Json} (h : IsInteger v) : ∃ n, checkInteger v = .ok n := by
  cases h with
  | int n => exact ⟨n, rfl⟩
  | bool b => exact ⟨_, rfl⟩
  | @float x n hwhole hbounds =>
    refine ⟨n, ?_⟩
    cases x with
    | finite negative mantissa exponent =>
      simp only [checkInteger, integerOfFloat, hwhole]
      exact if_pos hbounds
    | _ => cases hwhole
  | @text s n hread => exact ⟨n, by simp only [checkInteger, hread]⟩

theorem IntegerFault.checkInteger_eq {v : Json} {cause : Cause} (h : IntegerFault v cause) :
    checkInteger v = .fault cause := by
  cases h with
  | null => rfl
  | arr items => rfl
  | obj members => rfl
  | nan => rfl
  | infinite negative => rfl
  | fraction h => simp only [checkInteger, integerOfFloat, h]
  | @beyond x n hwhole hbounds =>
    cases x with
    | finite negative mantissa exponent =>
      simp only [checkInteger, integerOfFloat, hwhole]
      exact if_neg hbounds
    | _ => cases hwhole
  | tooLong h => simp only [checkInteger, h]
  | malformed h => simp only [checkInteger, h]

/-- A value is taken for a whole number, or there is a reason why it is not. -/
theorem isInteger_or_fault (v : Json) : IsInteger v ∨ ∃ cause, IntegerFault v cause := by
  cases v with
  | null => exact Or.inr ⟨_, .null⟩
  | bool b => exact Or.inl (.bool b)
  | int n => exact Or.inl (.int n)
  | arr items => exact Or.inr ⟨_, .arr items⟩
  | obj members => exact Or.inr ⟨_, .obj members⟩
  | str s =>
    cases hread : Text.fieldValue s with
    | ok n => exact Or.inl (.text hread)
    | error fault =>
      cases fault with
      | tooLong => exact Or.inr ⟨_, .tooLong hread⟩
      | malformed => exact Or.inr ⟨_, .malformed hread⟩
  | float x =>
    cases x with
    | nan => exact Or.inr ⟨_, .nan⟩
    | infinite negative => exact Or.inr ⟨_, .infinite negative⟩
    | finite negative mantissa exponent =>
      cases hwhole : (Binary64.finite negative mantissa exponent).whole? with
      | none => exact Or.inr ⟨_, .fraction hwhole⟩
      | some n =>
        by_cases hbounds : -0x8000000000000000 < n ∧ n < 0x8000000000000000
        · exact Or.inl (.float hwhole hbounds)
        · exact Or.inr ⟨_, .beyond hwhole hbounds⟩

/-! ## Values of the wrong type -/

/-- **A value of the wrong type is refused for that reason alone.** -/
theorem IllTyped.check_eq {kind : Kind} {v : Json} {cause : Cause} (h : IllTyped kind v cause) :
    check kind v = .fault cause := by
  cases h with
  | notText h =>
    cases v with
    | str s => exact absurd rfl (h s)
    | _ => rfl
  | tooShort h => exact (check_text _ _).trans (if_pos h)
  | notInteger h => exact h.checkInteger_eq
  | notList h =>
    cases v with
    | arr items => exact absurd rfl (h items)
    | _ => rfl
  | notRecord h =>
    cases v with
    | obj members => exact absurd rfl (h members)
    | _ => rfl

/-- There is one reason only. -/
theorem IllTyped.unique {kind : Kind} {v : Json} {cause c : Cause} (h : IllTyped kind v cause)
    (h' : IllTyped kind v c) : cause = c := by
  have heq := h.check_eq.symm.trans h'.check_eq
  cases heq
  rfl

/-- A value of the wrong type is there. -/
theorem IllTyped.ne_missing {kind : Kind} {v : Json} {cause : Cause} (h : IllTyped kind v cause) :
    cause ≠ .missing := by
  rintro rfl
  cases h with
  | notInteger h => cases h

/-- A value of the right shape is of the right type. -/
theorem Accepts.not_illTyped {kind : Kind} {v : Json} {cause : Cause} (h : Accepts kind v) :
    ¬ IllTyped kind v cause := by
  intro hill
  cases h with
  | text hlength =>
    cases hill with
    | notText h => exact h _ rfl
    | tooShort h => omega
  | integer h =>
    obtain ⟨n, hn⟩ := h.exists_checkInteger
    cases hill with
    | notInteger hfault =>
      rw [hfault.checkInteger_eq] at hn
      cases hn
  | null => cases hill
  | nullable => cases hill
  | list =>
    cases hill with
    | notList h => exact h _ rfl
  | record =>
    cases hill with
    | notRecord h => exact h _ rfl

/-! ## Kinds without parts -/

/-- Whether every value passes and has the shape of a kind, or is of the wrong type itself. -/
def Kind.IsLeaf (kind : Kind) : Prop :=
  ∀ v, ((∃ a, check kind v = .ok a) ∧ Accepts kind v) ∨ ∃ cause, IllTyped kind v cause

theorem isLeaf_text (minLength : Nat) : (Kind.text minLength).IsLeaf := by
  intro v
  cases v with
  | str s =>
    by_cases h : s.length < minLength
    · exact Or.inr ⟨_, .tooShort h⟩
    · exact Or.inl ⟨⟨s, (check_text minLength s).trans (if_neg h)⟩, .text (by omega)⟩
  | _ => exact Or.inr ⟨_, .notText nofun⟩

theorem isLeaf_integer : Kind.integer.IsLeaf := by
  intro v
  rcases isInteger_or_fault v with h | ⟨cause, hfault⟩
  · exact Or.inl ⟨h.exists_checkInteger, .integer h⟩
  · exact Or.inr ⟨cause, .notInteger hfault⟩

namespace Kind.IsLeaf

variable {kind : Kind}

theorem exists_check_iff (h : kind.IsLeaf) (v : Json) : (∃ a, check kind v = .ok a) ↔ Accepts kind v := by
  rcases h v with ⟨hok, haccepts⟩ | ⟨cause, hill⟩
  · exact iff_of_true hok haccepts
  · refine iff_of_false ?_ fun haccepts => haccepts.not_illTyped hill
    rintro ⟨a, ha⟩
    rw [hill.check_eq] at ha
    cases ha

theorem hasReason (h : kind.IsLeaf) (v : Json) : (check kind v).HasReason := by
  rcases h v with ⟨⟨a, ha⟩, -⟩ | ⟨cause, hill⟩
  · rw [ha]
    exact Checked.hasReason_ok a
  · rw [hill.check_eq]
    exact Checked.hasReason_fault cause

theorem mem_faults_iff (h : kind.IsLeaf) {v : Json} {path : List PathStep} {cause : Cause} :
    ⟨path, cause⟩ ∈ (check kind v).faults ↔ path = [] ∧ IllTyped kind v cause := by
  rcases h v with ⟨⟨a, ha⟩, haccepts⟩ | ⟨c, hill⟩
  · rw [ha]
    exact iff_of_false List.not_mem_nil fun hfault => haccepts.not_illTyped hfault.2
  · rw [hill.check_eq, Checked.mem_faults_fault]
    exact and_congr_right fun _ => ⟨fun heq => heq ▸ hill, fun hfault => hfault.unique hill⟩

theorem pairwise_faults (h : kind.IsLeaf) (v : Json) (before : Fault → Fault → Prop) :
    (check kind v).faults.Pairwise before := by
  rcases h v with ⟨⟨a, ha⟩, -⟩ | ⟨cause, hill⟩
  · rw [ha]
    exact .nil
  · rw [hill.check_eq]
    exact List.pairwise_singleton _ _

end Kind.IsLeaf

/-! ## Kinds with parts -/

section

variable {kind : Kind} {v : Json}

theorem exists_check_nullable_iff (hv : v ≠ .null) :
    (∃ a, check (.nullable kind) v = .ok a) ↔ ∃ a, check kind v = .ok a := by
  rw [check_nullable kind hv]
  cases check kind v with
  | ok a => exact iff_of_true ⟨some a, rfl⟩ ⟨a, rfl⟩
  | error faults => exact iff_of_false nofun nofun

theorem faults_check_nullable (hv : v ≠ .null) :
    (check (.nullable kind) v).faults = (check kind v).faults := by
  rw [check_nullable kind hv]
  cases check kind v <;> rfl

end

section

variable {item : Kind} {items : List Json} {fields : Fields} {members : List (String × Json)}

theorem exists_check_arr_iff :
    (∃ a, check (.list item) (.arr items) = .ok a) ↔ ∀ x ∈ items, ∃ a, check item x = .ok a :=
  exists_checkItems_iff 0

theorem mem_faults_check_arr {path : List PathStep} {cause : Cause} :
    ⟨path, cause⟩ ∈ (check (.list item) (.arr items)).faults ↔
      ∃ n x rest, items[n]? = some x ∧ path = .index n :: rest ∧ ⟨rest, cause⟩ ∈ (check item x).faults := by
  have hitems := @mem_faults_checkItems _ (check item) 0 items path cause
  simp only [Nat.zero_add] at hitems
  exact hitems

theorem exists_check_obj_iff : (∃ a, check (.record fields) (.obj members) = .ok a) ↔
    ∃ x, checkFields fields members = .ok x := Iff.rfl

theorem faults_check_obj :
    (check (.record fields) (.obj members)).faults = (checkFields fields members).faults := rfl

end

end WebhookRegistry.Schema
