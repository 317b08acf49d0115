/-
  Key spelling and unknown keys do not matter.

  `Proofs/Schema/Spelling.lean` compares the checks of two values whose objects may differ at any depth.
  Here

  1. **Edits** show what the comparison covers: to add or to take away a member under a key of no field, to
     reorder members, to rename a key that a field has alone, and to put anything under the name of a
     field whose alias is there. An edit inside a field is an edit of the object (`alike_inside`).

  2. **Verdicts** on the five records follow (`GoesByFields`): the first two edits and the last one change
     nothing, and renaming changes the names in the paths of faults.
-/
import WebhookRegistry.Proofs.Schema.Spelling
import WebhookRegistry.Proofs.Validation

namespace WebhookRegistry

open Schema

/-! ## Members -/

namespace Json

/-- A member is not seen under other keys. -/
theorem lookup_insert {key k : String} (hk : k ≠ key) (front back : List (String × Json)) (v : Json) :
    lookup key (front ++ (k, v) :: back) = lookup key (front ++ back) := by
  rw [lookup_append, lookup_append, lookup, if_neg hk]
  cases lookup key back <;> rfl

/-- A member is seen under its key if no other one has it. -/
theorem lookup_inserted {key : String} {front back : List (String × Json)}
    (h : lookup key (front ++ back) = none) (v : Json) :
    lookup key (front ++ (key, v) :: back) = some v := by
  rw [lookup_append] at h ⊢
  obtain ⟨hback, -⟩ := Option.or_eq_none_iff.1 h
  rw [lookup, hback, if_pos rfl]
  rfl

theorem rel_self {same : Json → Json → Prop} (hrefl : ∀ v, same v v) (found : Option Json) :
    Option.Rel same found found := by
  cases found with
  | none => exact .none
  | some v => exact .some (hrefl v)

/-- Related values in one member are seen as such, or not at all. -/
theorem lookup_replace {same : Json → Json → Prop} (hrefl : ∀ v, same v v) {v w : Json} (h : same v w)
    {key k : String} {front back : List (String × Json)} :
    Option.Rel same (lookup key (front ++ (k, v) :: back)) (lookup key (front ++ (k, w) :: back)) := by
  rw [lookup_append, lookup_append, lookup, lookup]
  cases lookup key back with
  | some u => exact .some (hrefl u)
  | none =>
    by_cases hk : k = key
    · rw [if_pos hk, if_pos hk]
      exact .some h
    · rw [if_neg hk, if_neg hk]
      exact rel_self hrefl (lookup key front)

/-- **The order of members does not matter** where no key is repeated. -/
theorem lookup_perm {members others : List (String × Json)} (h : members.Perm others)
    (hkeys : (members.map Prod.fst).Nodup) (key : String) : lookup key members = lookup key others := by
  induction h with
  | nil => rfl
  | cons member _ ih =>
    obtain ⟨k, v⟩ := member
    rw [lookup, lookup, ih (List.nodup_cons.1 hkeys).2]
  | swap first second rest =>
    obtain ⟨k, v⟩ := first
    obtain ⟨k', v'⟩ := second
    have hne : k' ≠ k := by
      rintro rfl
      exact (List.nodup_cons.1 hkeys).1 List.mem_cons_self
    simp only [lookup]
    cases lookup key rest with
    | some w => rfl
    | none =>
      by_cases hk : k = key
      · subst hk
        rw [if_pos rfl, if_neg hne]
      · rw [if_neg hk]
        generalize (if k' = key then some v' else none) = found
        cases found <;> rfl
  | trans hfirst _ ih ih' => exact (ih hkeys).trans (ih' ((hfirst.map Prod.fst).nodup_iff.1 hkeys))

end Json

/-! ## Edits -/

namespace Schema

section

variable {R : FieldRelation}

/-- Fields are in a relation one by one. -/
theorem Fields.alike_of_forall : ∀ {fields : Fields} {members others : List (String × Json)},
    (∀ name kind default, fields.Declares name kind default → R name (kind.Alike R) members others) →
      fields.Alike R members others
  | .nil, _, _, _ => trivial
  | .cons _ _ _ _, _, _, h =>
    ⟨h _ _ _ .here, alike_of_forall fun name kind default hfield => h name kind default (.there hfield)⟩

/-- A value is alike to itself, if equal fields are in the relation. -/
theorem alike_refl (hR : ∀ name same members, (∀ v, same v v) → R name same members members) :
    ∀ (kind : Kind) (v : Json), kind.Alike R v v := by
  have hcases : KindCases (fun kind => ∀ v, kind.Alike R v v)
      (fun fields => ∀ members, fields.Alike R members members) :=
    { text := fun _ _ => rfl
      integer := fun _ => rfl
      nullable := fun _ ih v => ih v
      list := fun item ih v => by
        cases v with
        | arr items => exact List.forall₂_same.2 fun x _ => ih x
        | _ => rfl
      record := fun fields ih v => by
        cases v with
        | obj members => exact ih members
        | _ => rfl
      nil := fun _ => trivial
      cons := fun name kind default rest ihKind ihRest members =>
        ⟨hR name _ members ihKind, ihRest members⟩ }
  exact hcases.kind

end

theorem Kept.refl (name : String) (same : Json → Json → Prop) (members : List (String × Json))
    (h : ∀ v, same v v) : Kept name same members members :=
  ⟨Json.rel_self h _, Json.rel_self h _⟩

/-- A field is kept if neither of its keys is touched. -/
theorem kept_of_lookup_eq {name : String} {same : Json → Json → Prop}
    {members others : List (String × Json)} (hsame : ∀ v, same v v)
    (h : ∀ key, Spells name key → Json.lookup key members = Json.lookup key others) :
    Kept name same members others := by
  have hrefl := Kept.refl name same others hsame
  unfold Kept
  rw [h _ (Or.inl rfl), h _ (Or.inr rfl)]
  exact hrefl

section

variable {fields : Fields} {front back members others : List (String × Json)}

/-- **A member under a key of no field can be added**, or taken away. -/
theorem alike_insert {k : String} (hk : ∀ name ∈ fields.names, ¬ Spells name k) (v : Json) :
    fields.Alike Kept (front ++ back) (front ++ (k, v) :: back) := by
  refine Fields.alike_of_forall fun name kind default hfield => ?_
  refine kept_of_lookup_eq (alike_refl Kept.refl kind) fun key hkey => ?_
  have hne : k ≠ key := by
    rintro rfl
    exact hk name hfield.mem_names hkey
  exact (Json.lookup_insert hne front back v).symm

/-- **Members can be reordered.** -/
theorem alike_perm (h : members.Perm others) (hkeys : (members.map Prod.fst).Nodup) :
    fields.Alike Kept members others :=
  Fields.alike_of_forall fun _ kind _ _ =>
    kept_of_lookup_eq (alike_refl Kept.refl kind) fun key _ => Json.lookup_perm h hkeys key

variable {name : String} {kind : Kind} {default : Option Json}

/-- An edit of one field leaves the others as they are. -/
theorem alike_of_field {R : FieldRelation}
    (hkept : ∀ name same members others, Kept name same members others → R name same members others)
    (hapart : fields.Apart) (hfield : fields.Declares name kind default)
    (h : (∀ v, kind.Alike R v v) → R name (kind.Alike R) members others)
    (hother : ∀ key, ¬ Spells name key → Json.lookup key members = Json.lookup key others) :
    fields.Alike R members others := by
  have hrefl : ∀ (kind : Kind) (v : Json), kind.Alike R v v :=
    alike_refl fun name same members hsame => hkept _ _ _ _ (Kept.refl name same members hsame)
  refine Fields.alike_of_forall fun other otherKind otherDefault hdeclared => ?_
  by_cases hkeys : ∃ key, Spells other key ∧ Spells name key
  · obtain ⟨key, hkey, hkey'⟩ := hkeys
    obtain ⟨rfl, rfl⟩ := hfield.unique hapart hdeclared hkey' hkey
    exact h (hrefl kind)
  · exact hkept _ _ _ _ (kept_of_lookup_eq (hrefl otherKind) fun key hkey =>
      hother key fun hkey' => hkeys ⟨key, hkey, hkey'⟩)

/-- **An edit inside a field is an edit of the object.** -/
theorem alike_inside {R : FieldRelation}
    (hkept : ∀ name same members others, Kept name same members others → R name same members others)
    (hapart : fields.Apart) (hfield : fields.Declares name kind default) {key : String}
    (hkey : Spells name key) {v w : Json} (h : kind.Alike R v w) :
    fields.Alike R (front ++ (key, v) :: back) (front ++ (key, w) :: back) := by
  refine alike_of_field hkept hapart hfield (fun hrefl => ?_) fun other hother => ?_
  · exact hkept _ _ _ _ ⟨Json.lookup_replace hrefl h, Json.lookup_replace hrefl h⟩
  · have hne : key ≠ other := by
      rintro rfl
      exact hother hkey
    rw [Json.lookup_insert hne, Json.lookup_insert hne]

/-- **What is under the name of a field does not count** where the alias is there. -/
theorem alike_shadow (hapart : fields.Apart) (hfield : fields.Declares name kind default) {v : Json}
    (hne : name ≠ aliasOf name) (halias : Json.lookup (aliasOf name) (front ++ back) = some v) (w : Json) :
    fields.Alike Shadowed (front ++ back) (front ++ (name, w) :: back) := by
  refine alike_of_field (fun _ _ _ _ => Or.inl) hapart hfield (fun hrefl => ?_) fun key hkey => ?_
  · exact Or.inr ⟨v, v, halias, (Json.lookup_insert hne front back w).trans halias, hrefl v⟩
  · exact (Json.lookup_insert (fun heq => hkey (Or.inr heq.symm)) front back w).symm

/-- **A key that a field has alone can be renamed** to the other spelling. -/
theorem alike_rename (hapart : fields.Apart) (hfield : fields.Declares name kind default)
    {key key' : String} (hkeys : (key = aliasOf name ∧ key' = name) ∨ (key = name ∧ key' = aliasOf name))
    (hne : key ≠ key') (hkey : Json.lookup key (front ++ back) = none)
    (hkey' : Json.lookup key' (front ++ back) = none) (v : Json) :
    fields.Alike Renamed (front ++ (key, v) :: back) (front ++ (key', v) :: back) := by
  refine alike_of_field (fun _ _ _ _ h => Or.inl (Or.inl h)) hapart hfield (fun hrefl => ?_)
    fun other hother => ?_
  · have hmoved : Moved (kind.Alike Renamed) (front ++ (key, v) :: back) (front ++ (key', v) :: back)
        key key' :=
      ⟨v, v, Json.lookup_inserted hkey v, (Json.lookup_insert hne front back v).trans hkey',
        Json.lookup_inserted hkey' v, (Json.lookup_insert hne.symm front back v).trans hkey, hrefl v⟩
    rcases hkeys with ⟨rfl, rfl⟩ | ⟨rfl, rfl⟩
    · exact Or.inr (Or.inl hmoved)
    · exact Or.inr (Or.inr hmoved)
  · have hnot : key ≠ other ∧ key' ≠ other := by
      constructor
      · rintro rfl
        exact hother (hkeys.imp And.left And.left)
      · rintro rfl
        exact hother (hkeys.symm.imp And.right And.right)
    rw [Json.lookup_insert hnot.1, Json.lookup_insert hnot.2]

end

/-! ## Verdicts -/

/-- Whether two verdicts are one value, or refusals whose faults come in pairs of one cause, at places
    that are in a relation. -/
inductive SameVerdict {α : Type} (rel : List PathStep → List PathStep → Prop) :
    Except Invalid α → Except Invalid α → Prop where
  | ok (a : α) : SameVerdict rel (.ok a) (.ok a)
  | error {title : String} {source : Source} {faults more : List Fault}
      (h : Checked.Paired rel faults more) :
      SameVerdict rel (.error ⟨title, source, faults⟩) (.error ⟨title, source, more⟩)

/-- Whether the verdicts on two values are in a relation, both if the values come decoded and if they come
    as texts. -/
structure Verdicts (α : Type) [Described α] (rel : Except Invalid α → Except Invalid α → Prop)
    (v w : Json) : Prop where
  decoded : rel (validate v) (validate w)
  text : ∀ t u, Json.parse? t = some v → Json.parse? u = some w → rel (readText t) (readText u)

theorem verdicts_of_ofChecked {α : Type} [Described α] {rel : Except Invalid α → Except Invalid α → Prop}
    {v w : Json} (h : ∀ source, rel (ofChecked source (check (.record (Described.fields α)) v))
      (ofChecked source (check (.record (Described.fields α)) w))) : Verdicts α rel v w := by
  refine ⟨h .decoded, fun t u ht hu => ?_⟩
  unfold readText
  rw [ht, hu]
  exact h .text

/-- Whether validation of a described type goes by the fields of objects, however they are written. -/
structure GoesByFields (α : Type) [Described α] : Prop where
  /-- Unknown keys and the order of keys do not matter. -/
  kept : ∀ v w, (Kind.record (Described.fields α)).Alike Kept v w → Verdicts α Eq v w
  /-- What is under the name of a field does not matter where the alias is there. -/
  shadowed : ∀ v w, (Kind.record (Described.fields α)).Alike Shadowed v w → Verdicts α Eq v w
  /-- The spelling of a key matters for the paths of faults alone. -/
  renamed : ∀ v w, (Kind.record (Described.fields α)).Alike Renamed v w →
    Verdicts α (SameVerdict (SameWay (.record (Described.fields α)) v w)) v w

/-- **Validation goes by the fields**, if the kinds are well-formed. -/
theorem goesByFields {α : Type} [Described α]
    (hfields : (Kind.record (Described.fields α)).WellFormed) : GoesByFields α := by
  refine ⟨fun v w h => ?_, fun v w h => ?_, fun v w h => ?_⟩
  · refine verdicts_of_ofChecked fun source => ?_
    rw [check_eq_of_alike (fun _ _ _ _ => Kept.located) h]
  · refine verdicts_of_ofChecked fun source => ?_
    rw [check_eq_of_alike (fun _ _ _ _ => Shadowed.located) h]
  · refine verdicts_of_ofChecked fun source => ?_
    have hagree := agree_check_of_alike hfields h
    generalize check (.record (Described.fields α)) v = p at hagree
    generalize check (.record (Described.fields α)) w = q at hagree
    cases hagree with
    | ok a => exact .ok _
    | error h => exact .error h

end Schema

/-! ## The five records -/

/-- **Key spelling and unknown keys do not matter** for any of the five records. -/
theorem validation_goes_by_fields :
    GoesByFields AuthenticationInfo ∧ GoesByFields PushConfig ∧ GoesByFields TaskPushConfig ∧
      GoesByFields ListRequest ∧ GoesByFields ConfigPage :=
  ⟨goesByFields AuthenticationInfo.wellFormed_fields, goesByFields PushConfig.wellFormed_fields,
    goesByFields TaskPushConfig.wellFormed_fields, goesByFields ListRequest.wellFormed_fields,
    goesByFields ConfigPage.wellFormed_fields⟩

/-- A listed config with an unknown key two objects further in, with its members in another order, with a
    number under the name of a field whose alias is there, and with the other spelling of a key. -/
theorem validation_goes_by_fields_of_edits :
    let auth : List (String × Json) := [("schemes", .arr [.str "Basic"])]
    let config (auth : List (String × Json)) : Json :=
      .obj [("url", .str "u"), ("authentication", .obj auth)]
    let task (key : String) (config : Json) : Json := .obj [("taskId", .str "t"), (key, config)]
    let plain := task "pushNotificationConfig" (config auth)
    let extended := task "pushNotificationConfig" (config (("realm", .null) :: auth))
    let turned : Json := .obj [("pushNotificationConfig", config auth), ("taskId", .str "t")]
    let shadowed : Json :=
      .obj [("taskId", .str "t"), ("task_id", .int 7), ("pushNotificationConfig", config auth)]
    let renamed := task "push_notification_config" (config auth)
    Verdicts TaskPushConfig Eq plain extended ∧ Verdicts TaskPushConfig Eq plain turned ∧
      Verdicts TaskPushConfig Eq plain shadowed ∧
      Verdicts TaskPushConfig (SameVerdict (SameWay (.record TaskPushConfig.fields) plain renamed))
        plain renamed := by
  intro auth config task plain extended turned shadowed renamed
  have hgoes : GoesByFields TaskPushConfig := validation_goes_by_fields.2.2.1
  have htaskId : TaskPushConfig.fields.Declares "task_id" (.text 0) none := .here
  have hconfig : TaskPushConfig.fields.Declares "push_notification_config" (.record PushConfig.fields)
      none := .there .here
  have hauth : PushConfig.fields.Declares "authentication"
      (.nullable (.record AuthenticationInfo.fields)) (some .null) := .there (.there (.there .here))
  let url : List (String × Json) := [("url", .str "u")]
  let taskId : List (String × Json) := [("taskId", .str "t")]
  have hinserted : AuthenticationInfo.fields.Alike Kept ([] ++ auth) ([] ++ ("realm", .null) :: auth) :=
    alike_insert (by unfold Spells; decide) .null
  have hinside : PushConfig.fields.Alike Kept (url ++ [("authentication", .obj auth)])
      (url ++ [("authentication", .obj (("realm", .null) :: auth))]) :=
    alike_inside (fun _ _ _ _ => id) PushConfig.apart_fields hauth (Or.inr rfl) hinserted
  have hextended : TaskPushConfig.fields.Alike Kept
      (taskId ++ [("pushNotificationConfig", config auth)])
      (taskId ++ [("pushNotificationConfig", config (("realm", .null) :: auth))]) :=
    alike_inside (fun _ _ _ _ => id) TaskPushConfig.apart_fields hconfig (Or.inl rfl) hinside
  have hturned : TaskPushConfig.fields.Alike Kept
      [("taskId", .str "t"), ("pushNotificationConfig", config auth)]
      [("pushNotificationConfig", config auth), ("taskId", .str "t")] :=
    alike_perm (.swap _ _ _) (by decide)
  have hshadowed : TaskPushConfig.fields.Alike Shadowed
      (taskId ++ [("pushNotificationConfig", config auth)])
      (taskId ++ ("task_id", .int 7) :: [("pushNotificationConfig", config auth)]) :=
    alike_shadow TaskPushConfig.apart_fields htaskId (by decide) rfl (.int 7)
  have hrenamed : TaskPushConfig.fields.Alike Renamed
      (taskId ++ [("pushNotificationConfig", config auth)])
      (taskId ++ [("push_notification_config", config auth)]) :=
    alike_rename TaskPushConfig.apart_fields hconfig (Or.inl ⟨rfl, rfl⟩) (by decide) rfl rfl _
  exact ⟨hgoes.kept _ _ hextended, hgoes.kept _ _ hturned, hgoes.shadowed _ _ hshadowed,
    hgoes.renamed _ _ hrenamed⟩

end WebhookRegistry
