/-
  A check finds the faults of a value, all of them and nothing else.

  The argument goes through the kinds. `KindCases` is its shape, one case for each kind and one for each
  way to make a record, and each of these uses it:

  1. `exists_check_iff`: a value passes exactly if it has the shape that its kind declares.
  2. `hasReason_check`: a value that does not pass has a fault.
  3. `mem_faults_check`: the faults are the places at fault.
  4. `pairwise_faults_check`: they come in the order of the places.

  Kinds are taken to be well-formed. Then a path leads to one place only, so the faults below a place are
  those of the value there, whatever stands elsewhere (`faultAt_append_iff`).
-/
import WebhookRegistry.Proofs.Schema.Faults

namespace WebhookRegistry.Schema

/-! ## Values that pass -/

theorem existsCheckCases : KindCases
    (fun kind => kind.WellFormed → ∀ v, (∃ a, check kind v = .ok a) ↔ Accepts kind v)
    (fun fields => fields.WellFormed → ∀ members,
      (∃ x, checkFields fields members = .ok x) ↔ FieldsAccept fields members) where
  text minLength _ v := (isLeaf_text minLength).exists_check_iff v
  integer _ v := isLeaf_integer.exists_check_iff v
  nullable kind ih hkind v := by
    by_cases hv : v = .null
    · subst hv
      exact iff_of_true ⟨none, rfl⟩ .null
    · rw [exists_check_nullable_iff hv, ih hkind v]
      refine ⟨.nullable, fun h => ?_⟩
      cases h with
      | null => exact absurd rfl hv
      | nullable h => exact h
  list item ih hitem v := by
    cases v with
    | arr items =>
      rw [exists_check_arr_iff, forall₂_congr fun x _ => ih hitem x]
      refine ⟨.list, fun h => ?_⟩
      cases h with
      | list h => exact h
    | _ => exact iff_of_false nofun nofun
  record fields ih hfields v := by
    cases v with
    | obj members =>
      rw [exists_check_obj_iff, ih hfields.2 members]
      refine ⟨fun h => .record h.1 h.2, fun h => ?_⟩
      cases h with
      | record hpresent hrequired => exact ⟨hpresent, hrequired⟩
    | _ => exact iff_of_false nofun nofun
  nil _ members := iff_of_true ⟨(), rfl⟩ ⟨fun _ _ _ _ _ h => (nomatch h), fun _ _ h => (nomatch h)⟩
  cons name kind default rest ihKind ihRest hwf members := by
    obtain ⟨hkind, hdefault, hrest⟩ := hwf
    obtain ⟨first, heq, hfirst⟩ := checkFields_cons_cases name kind default rest members
    rw [exists_checkFields_cons_iff heq, ihRest hrest members, fieldsAccept_cons_iff]
    refine and_congr_left fun _ => ?_
    rcases hfirst with ⟨key, v, hv, rfl⟩ | ⟨habsent, d, rfl, rfl⟩ | ⟨habsent, rfl, rfl⟩
    · simp only [Checked.under_eq_ok_iff]
      rw [ihKind hkind v]
      refine ⟨fun h => ⟨?_, fun _ => hv.not_absent⟩, fun h => h.1 key v hv⟩
      intro key' v' hv'
      obtain ⟨-, rfl⟩ := hv.unique hv'
      exact h
    · exact iff_of_true (hdefault d rfl) ⟨fun _ _ hv => absurd habsent hv.not_absent, nofun⟩
    · exact iff_of_false nofun fun h => h.2 rfl habsent

/-- **A value passes exactly if it has the shape that its kind declares.** -/
theorem exists_check_iff {kind : Kind} (hkind : kind.WellFormed) (v : Json) :
    (∃ a, check kind v = .ok a) ↔ Accepts kind v :=
  existsCheckCases.kind kind hkind v

/-! ## Values that do not pass -/

theorem hasReasonCases : KindCases (fun kind => ∀ v, (check kind v).HasReason)
    (fun fields => ∀ members, (checkFields fields members).HasReason) where
  text minLength := (isLeaf_text minLength).hasReason
  integer := isLeaf_integer.hasReason
  nullable kind ih v := by
    by_cases hv : v = .null
    · subst hv
      exact Checked.hasReason_ok _
    · have hreason := ih v
      rw [check_nullable kind hv]
      cases hcheck : check kind v with
      | ok a => exact Checked.hasReason_ok _
      | error faults =>
        rw [hcheck] at hreason
        exact fun heq => hreason (congrArg _ (Except.error.inj heq))
  list item ih v := by
    cases v with
    | arr items => exact hasReason_checkItems ih 0 items
    | _ => exact Checked.hasReason_fault .notList
  record fields ih v := by
    cases v with
    | obj members => exact ih members
    | _ => exact Checked.hasReason_fault .notRecord
  nil members := Checked.hasReason_ok _
  cons name kind default rest ihKind ihRest members := by
    obtain ⟨first, heq, hfirst⟩ := checkFields_cons_cases name kind default rest members
    rw [heq]
    refine Checked.HasReason.both ?_ (ihRest members)
    rcases hfirst with ⟨key, v, -, rfl⟩ | ⟨-, d, -, rfl⟩ | ⟨-, -, rfl⟩
    · exact (ihKind v).under (.key key)
    · exact ihKind d
    · exact (Checked.hasReason_fault .missing).under (.key (aliasOf name))

/-- **A value that does not pass has a fault.** -/
theorem hasReason_check (kind : Kind) (v : Json) : (check kind v).HasReason := hasReasonCases.kind kind v

/-! ## The faults of a value -/

theorem memFaultsCases : KindCases
    (fun kind => kind.WellFormed → ∀ v path cause,
      ⟨path, cause⟩ ∈ (check kind v).faults ↔ FaultAt kind v path cause)
    (fun fields => fields.WellFormed → ∀ members path cause,
      ⟨path, cause⟩ ∈ (checkFields fields members).faults ↔
        FieldFaultAt fields members path cause) where
  text minLength _ v path cause := (isLeaf_text minLength).mem_faults_iff.trans faultAt_text_iff.symm
  integer _ v path cause := isLeaf_integer.mem_faults_iff.trans faultAt_integer_iff.symm
  nullable kind ih hkind v path cause := by
    rw [faultAt_nullable_iff]
    by_cases hv : v = .null
    · subst hv
      exact iff_of_false List.not_mem_nil fun h => h.1 rfl
    · rw [faults_check_nullable hv, ih hkind v path cause]
      exact (and_iff_right hv).symm
  list item ih hitem v path cause := by
    by_cases hv : ∃ items, v = .arr items
    · obtain ⟨items, rfl⟩ := hv
      simp only [mem_faults_check_arr, faultAt_arr_iff, ih hitem]
    · have hne : ∀ items, v ≠ .arr items := fun items heq => hv ⟨items, heq⟩
      rw [(IllTyped.notList hne).check_eq, Checked.mem_faults_fault, faultAt_list_of_ne hne]
  record fields ih hfields v path cause := by
    by_cases hv : ∃ members, v = .obj members
    · obtain ⟨members, rfl⟩ := hv
      rw [faults_check_obj, ih hfields.2 members path cause, faultAt_obj_iff]
    · have hne : ∀ members, v ≠ .obj members := fun members heq => hv ⟨members, heq⟩
      rw [(IllTyped.notRecord hne).check_eq, Checked.mem_faults_fault, faultAt_record_of_ne hne]
  nil _ members path cause := iff_of_false List.not_mem_nil fun ⟨_, _, _, h, _⟩ => nomatch h
  cons name kind default rest ihKind ihRest hwf members path cause := by
    obtain ⟨hkind, hdefault, hrest⟩ := hwf
    obtain ⟨first, heq, hfirst⟩ := checkFields_cons_cases name kind default rest members
    rw [faults_checkFields_cons heq, List.mem_append, ihRest hrest members path cause,
      fieldFaultAt_cons_iff]
    refine or_congr_left ?_
    rcases hfirst with ⟨key, v, hv, rfl⟩ | ⟨habsent, d, rfl, rfl⟩ | ⟨habsent, rfl, rfl⟩
    · rw [Checked.mem_faults_under]
      constructor
      · rintro ⟨tail, rfl, hmem⟩
        exact Or.inl ⟨key, v, tail, hv, rfl, (ihKind hkind v tail cause).1 hmem⟩
      · rintro (⟨key', v', tail, hv', rfl, hfault⟩ | ⟨-, habsent, -⟩)
        · obtain ⟨rfl, rfl⟩ := hv.unique hv'
          exact ⟨tail, rfl, (ihKind hkind v tail cause).2 hfault⟩
        · exact absurd habsent hv.not_absent
    · -- A default passes, so it has no fault to report.
      obtain ⟨a, ha⟩ := hdefault d rfl
      rw [ha]
      refine iff_of_false List.not_mem_nil ?_
      rintro (⟨key, v, tail, hv, -⟩ | ⟨hnone, -⟩)
      · exact hv.not_absent habsent
      · cases hnone
    · rw [Checked.mem_faults_under]
      constructor
      · rintro ⟨tail, rfl, hmem⟩
        obtain ⟨rfl, rfl⟩ := Checked.mem_faults_fault.1 hmem
        exact Or.inr ⟨rfl, habsent, rfl, rfl⟩
      · rintro (⟨key, v, tail, hv, -⟩ | ⟨-, -, rfl, rfl⟩)
        · exact absurd habsent hv.not_absent
        · exact ⟨[], rfl, Checked.mem_faults_fault.2 ⟨rfl, rfl⟩⟩

/-- **The faults of a value are the places at fault in it.** -/
theorem mem_faults_check {kind : Kind} (hkind : kind.WellFormed) {v : Json} {path : List PathStep}
    {cause : Cause} : ⟨path, cause⟩ ∈ (check kind v).faults ↔ FaultAt kind v path cause :=
  memFaultsCases.kind kind hkind v path cause

/-! ## The order of the faults -/

theorem pairwiseFaultsCases : KindCases
    (fun kind => kind.WellFormed → ∀ v,
      (check kind v).faults.Pairwise fun f g => kind.outline f.path < kind.outline g.path)
    (fun fields => fields.Apart → fields.WellFormed → ∀ members n,
      (checkFields fields members).faults.Pairwise fun f g =>
        fields.outline n f.path < fields.outline n g.path) where
  text minLength _ v := (isLeaf_text minLength).pairwise_faults v _
  integer _ v := isLeaf_integer.pairwise_faults v _
  nullable kind ih hkind v := by
    by_cases hv : v = .null
    · subst hv
      exact .nil
    · rw [faults_check_nullable hv]
      exact ih hkind v
  list item ih hitem v := by
    cases v with
    | arr items => exact pairwise_faults_checkItems (ih hitem) 0 items
    | _ => exact List.pairwise_singleton _ _
  record fields ih hfields v := by
    cases v with
    | obj members => exact ih hfields.1 hfields.2 members 0
    | _ => exact List.pairwise_singleton _ _
  nil _ _ members n := .nil
  cons name kind default rest ihKind ihRest hapart hwf members n := by
    obtain ⟨hkind, hdefault, hrest⟩ := hwf
    obtain ⟨first, heq, hfirst⟩ := checkFields_cons_cases name kind default rest members
    -- The faults of the first field have its position, in front of all others.
    have hposition : ∀ f ∈ first.faults, ∃ tail,
        (Fields.cons name kind default rest).outline n f.path = n :: tail := by
      rintro ⟨path, cause⟩ hf
      rcases hfirst with ⟨key, v, hv, rfl⟩ | ⟨-, d, rfl, rfl⟩ | ⟨-, -, rfl⟩
      · obtain ⟨tail, rfl, -⟩ := Checked.mem_faults_under.1 hf
        exact ⟨_, Fields.outline_of_spells n hv.spells tail⟩
      · obtain ⟨a, ha⟩ := hdefault d rfl
        rw [ha] at hf
        cases hf
      · obtain ⟨tail, rfl, -⟩ := Checked.mem_faults_under.1 hf
        exact ⟨_, Fields.outline_of_spells n (Or.inl rfl) tail⟩
    have hlater : ∀ g ∈ (checkFields rest members).faults,
        (Fields.cons name kind default rest).outline n g.path = rest.outline (n + 1) g.path ∧
          ∃ m tail, n < m ∧ rest.outline (n + 1) g.path = m :: tail := by
      rintro ⟨path, cause⟩ hg
      obtain ⟨other, key, tail, hother, hkey, rfl⟩ :=
        ((memFaultsCases.fields rest hrest members path cause).1 hg).exists_key
      exact ⟨Fields.outline_of_not_spells n (hapart.not_spells hother hkey) tail,
        Fields.exists_outline hother hkey (n + 1) tail⟩
    rw [faults_checkFields_cons heq, List.pairwise_append]
    refine ⟨?_, ?_, ?_⟩
    · rcases hfirst with ⟨key, v, hv, rfl⟩ | ⟨-, d, rfl, rfl⟩ | ⟨-, -, rfl⟩
      · rw [Checked.faults_under, List.pairwise_map]
        refine (ihKind hkind v).imp fun hlt => ?_
        rw [Fields.outline_of_spells n hv.spells, Fields.outline_of_spells n hv.spells]
        exact List.cons_lt_cons_iff.2 (Or.inr ⟨rfl, hlt⟩)
      · obtain ⟨a, ha⟩ := hdefault d rfl
        rw [ha]
        exact .nil
      · exact List.pairwise_singleton _ _
    · refine (ihRest hapart.2 hrest members (n + 1)).imp_of_mem fun hf hg hlt => ?_
      rw [(hlater _ hf).1, (hlater _ hg).1]
      exact hlt
    · intro f hf g hg
      obtain ⟨tail, htail⟩ := hposition f hf
      obtain ⟨heq', m, tail', hlt, htail'⟩ := hlater g hg
      rw [htail, heq', htail']
      exact List.cons_lt_cons_iff.2 (Or.inl hlt)

/-- **The faults of a value come in the order of their places.** -/
theorem pairwise_faults_check {kind : Kind} (hkind : kind.WellFormed) (v : Json) :
    (check kind v).faults.Pairwise fun f g => kind.outline f.path < kind.outline g.path :=
  pairwiseFaultsCases.kind kind hkind v

/-! ## The faults below a place -/

/-- A place in a value of a well-formed kind is of a well-formed kind. -/
theorem Leads.wellFormed {kind target : Kind} {v w : Json} {path : List PathStep}
    (h : Leads kind v path target w) (hkind : kind.WellFormed) : target.WellFormed := by
  induction h with
  | here => exact hkind
  | nonnull _ _ ih => exact ih hkind
  | item _ _ ih => exact ih hkind
  | field hfield _ _ ih => exact ih (hkind.2.kind hfield)

/-- **Below a place the faults are those of the value there**, whatever stands elsewhere. -/
theorem faultAt_append_iff {kind target : Kind} {v w : Json} {path rest : List PathStep} {cause : Cause}
    (hkind : kind.WellFormed) (hplace : Leads kind v path target w) :
    FaultAt kind v (path ++ rest) cause ↔ FaultAt target w rest cause := by
  induction hplace generalizing rest with
  | here => rw [List.nil_append]
  | nonnull hv _ ih => rw [faultAt_nullable_iff, and_iff_right hv, ih hkind]
  | @item item target items n x w path hx hplace ih =>
    rw [← ih hkind, List.cons_append, faultAt_arr_iff]
    constructor
    · rintro ⟨m, y, tail, hy, heq, hfault⟩
      cases heq
      rw [hx] at hy
      cases hy
      exact hfault
    · exact fun hfault => ⟨n, x, _, hx, rfl, hfault⟩
  | @field fields members name key kind target default v w path hfield hv hplace ih =>
    rw [← ih (hkind.2.kind hfield), List.cons_append, faultAt_obj_iff]
    constructor
    · rintro ⟨other, otherKind, otherDefault, hother, ⟨key', v', tail, hv', heq, hfault⟩ | h⟩
      · cases heq
        obtain ⟨rfl, rfl⟩ := hfield.unique hkind.1 hother hv.spells hv'.spells
        obtain ⟨-, rfl⟩ := hv.unique hv'
        exact hfault
      · -- No other field has this key, and this one is there.
        obtain ⟨-, habsent, heq, -⟩ := h
        have hkey : key = aliasOf other := PathStep.key.inj (List.cons.inj heq).1
        obtain ⟨rfl, -⟩ := hfield.unique hkind.1 hother hv.spells (Or.inl hkey)
        exact absurd habsent hv.not_absent
    · exact fun hfault => ⟨name, kind, default, hfield, Or.inl ⟨key, v, _, hv, rfl, hfault⟩⟩

end WebhookRegistry.Schema
