/-
  Validation accepts the declared shapes and reports every fault.

  Five records come in as JSON. For each of them

  1. **The shape** is written out with both keys of every field (`PushConfig.Shape` and the others): what
     has to be there, and what may be there and how. The kinds declare just that (`accepts_fields`).

  2. **The verdict** on a value is sound (`Judges`): the value is accepted exactly if it has the shape, and
     a refusal explains itself (`Explains`). It has one fault for each place at fault and no other, they
     are in the order of the declaration, and each leads to what is wrong.

  The second part holds for every record whose kinds are well-formed (`judges_ofChecked`), so it is there
  for the asking once that is known of the five.
-/
import WebhookRegistry.Proofs.Schema.Verdict
import WebhookRegistry.Proofs.WrittenValues

namespace WebhookRegistry

open Schema

namespace Schema

/-! ## Verdicts -/

/-- Whether a refusal explains what is wrong with a value that should have been a record. -/
structure Explains (fields : Fields) (v : Json) (faults : List Fault) : Prop where
  /-- There is a fault. -/
  ne_nil : faults ≠ []
  /-- The faults are the places at fault. -/
  mem_iff : ∀ path cause, ⟨path, cause⟩ ∈ faults ↔ FaultAt (.record fields) v path cause
  /-- No place is reported twice. -/
  nodup : (faults.map Fault.path).Nodup
  /-- They come as the fields are declared, items by index, and what is nested in the place of its
      field. -/
  ordered : faults.Pairwise fun f g =>
    (Kind.record fields).outline f.path < (Kind.record fields).outline g.path
  /-- A path leads to the value that is wrong. -/
  leads : ∀ f ∈ faults, f.cause ≠ .missing → ∃ target w,
    Leads (.record fields) v f.path target w ∧ follow f.path v = some w ∧ IllTyped target w f.cause
  /-- Where a field is missing, the path leads to the object that has it under neither key. -/
  lacks : ∀ f ∈ faults, f.cause = .missing → ∃ path inner members name kind,
    f.path = path ++ [.key (aliasOf name)] ∧
      Leads (.record fields) v path (.record inner) (.obj members) ∧
        follow path v = some (.obj members) ∧ inner.Declares name kind none ∧ Absent name members
  /-- The faults below a place are those that the value there has on its own. -/
  below : ∀ path target w, Leads (.record fields) v path target w → ∀ rest cause,
    ⟨path ++ rest, cause⟩ ∈ faults ↔ ⟨rest, cause⟩ ∈ (check target w).faults

/-- Whether a verdict on a value is sound: acceptance means that the value has a shape, and a refusal
    explains itself. -/
structure Judges {α : Type} [Described α] (shape : Json → Prop) (source : Source) (v : Json)
    (verdict : Except Invalid α) : Prop where
  accepts_iff : (∃ a, verdict = .ok a) ↔ shape v
  refuses : ∀ invalid, verdict = .error invalid →
    invalid.title = Described.title α ∧ invalid.source = source ∧
      Explains (Described.fields α) v invalid.faults

/-- The faults of a check explain a refusal. -/
theorem explains_check {fields : Fields} (hfields : (Kind.record fields).WellFormed) {v : Json}
    {faults : List Fault} (hcheck : check (.record fields) v = .error faults) :
    Explains fields v faults := by
  have hfaults : (check (.record fields) v).faults = faults := by
    rw [hcheck]
    rfl
  have hmem : ∀ path cause, ⟨path, cause⟩ ∈ faults ↔ FaultAt (.record fields) v path cause :=
    fun path cause => hfaults ▸ mem_faults_check hfields
  have hordered := hfaults ▸ pairwise_faults_check hfields v
  refine ⟨?_, hmem, ?_, hordered, ?_, ?_, ?_⟩
  · rintro rfl
    exact hasReason_check _ v hcheck
  · rw [List.Nodup, List.pairwise_map]
    refine hordered.imp fun hlt heq => ?_
    rw [heq] at hlt
    exact List.lt_irrefl _ hlt
  · rintro ⟨path, cause⟩ hf hcause
    cases (hmem path cause).1 hf with
    | illTyped hplace hill => exact ⟨_, _, hplace, hplace.follow_eq, hill⟩
    | missing => exact absurd rfl hcause
  · rintro ⟨path, cause⟩ hf rfl
    cases (hmem path _).1 hf with
    | illTyped hplace hill => exact absurd rfl hill.ne_missing
    | missing hplace hfield habsent =>
      exact ⟨_, _, _, _, _, rfl, hplace, hplace.follow_eq, hfield, habsent⟩
  · intro path target w hplace rest cause
    rw [hmem, faultAt_append_iff hfields hplace, mem_faults_check (hplace.wellFormed hfields)]

/-- A check gives a sound verdict, if the kinds are well-formed. -/
theorem judges_ofChecked {α : Type} [Described α] {shape : Json → Prop} (source : Source) (v : Json)
    (hfields : (Kind.record (Described.fields α)).WellFormed)
    (hshape : Accepts (.record (Described.fields α)) = shape) :
    Judges shape source v
      (ofChecked source (check (.record (Described.fields α)) v) : Except Invalid α) := by
  constructor
  · rw [← hshape, ← exists_check_iff hfields v]
    cases check (.record (Described.fields α)) v with
    | ok x => exact iff_of_true ⟨_, rfl⟩ ⟨x, rfl⟩
    | error faults => exact iff_of_false nofun nofun
  · intro invalid hinvalid
    cases hcheck : check (.record (Described.fields α)) v with
    | ok x =>
      rw [hcheck] at hinvalid
      cases hinvalid
    | error faults =>
      rw [hcheck] at hinvalid
      cases hinvalid
      exact ⟨rfl, rfl, explains_check hfields hcheck⟩

/-- Whether the verdicts on a value of a described type are sound, both if it comes decoded and if it
    comes as text. -/
structure Judged (α : Type) [Described α] (shape : Json → Prop) (v : Json) : Prop where
  decoded : Judges shape .decoded v (validate v : Except Invalid α)
  text : ∀ text, Json.parse? text = some v → Judges shape .text v (readText text : Except Invalid α)

/-- **Both ways in give a sound verdict**, if the kinds are well-formed. -/
theorem judged {α : Type} [Described α] {shape : Json → Prop}
    (hfields : (Kind.record (Described.fields α)).WellFormed)
    (hshape : Accepts (.record (Described.fields α)) = shape) (v : Json) : Judged α shape v := by
  refine ⟨judges_ofChecked .decoded v hfields hshape, fun text hparse => ?_⟩
  have hread : (readText text : Except Invalid α) =
      ofChecked .text (check (.record (Described.fields α)) v) := by
    unfold readText
    rw [hparse]
  exact hread ▸ judges_ofChecked .text v hfields hshape

/-! ## Shapes -/

/-- The value of a field with two keys; the first one goes before the second. -/
def sent (key name : String) (members : List (String × Json)) : Option Json :=
  (Json.lookup key members).or (Json.lookup name members)

/-- Whether what a field holds has a shape, if the field is there. -/
def May (shape : Json → Prop) (field : Option Json) : Prop := ∀ v, field = some v → shape v

/-- Whether a field is there and what it holds has a shape. -/
def Must (shape : Json → Prop) (field : Option Json) : Prop := ∃ v, field = some v ∧ shape v

/-- Whether a value is a text. -/
def IsText (v : Json) : Prop := ∃ s, v = .str s

/-- Whether a value is a text that is not empty. -/
def IsFilledText (v : Json) : Prop := ∃ s, v = .str s ∧ s ≠ ""

/-- Whether a value is null or has a shape. -/
def OrNull (shape : Json → Prop) (v : Json) : Prop := v = .null ∨ shape v

/-- Whether a value is an array of values that have a shape. -/
def IsListOf (shape : Json → Prop) (v : Json) : Prop := ∃ items, v = .arr items ∧ ∀ x ∈ items, shape x

theorem accepts_text : Accepts (.text 0) = IsText := by
  funext v
  refine propext ⟨fun h => ?_, ?_⟩
  · cases h with
    | @text _ s => exact ⟨s, rfl⟩
  · rintro ⟨s, rfl⟩
    exact .text (Nat.zero_le _)

theorem accepts_filledText : Accepts (.text 1) = IsFilledText := by
  have hlength : ∀ s : String, 1 ≤ s.length ↔ s ≠ "" := fun s => by
    rw [Nat.one_le_iff_ne_zero, Ne, String.length_eq_zero_iff]
  funext v
  refine propext ⟨fun h => ?_, ?_⟩
  · cases h with
    | @text _ s h => exact ⟨s, rfl, (hlength s).1 h⟩
  · rintro ⟨s, rfl, h⟩
    exact .text ((hlength s).2 h)

theorem accepts_integer : Accepts .integer = IsInteger := by
  funext v
  exact propext ⟨fun h => by cases h; assumption, .integer⟩

theorem accepts_nullable (kind : Kind) : Accepts (.nullable kind) = OrNull (Accepts kind) := by
  funext v
  refine propext ⟨fun h => ?_, ?_⟩
  · cases h with
    | null => exact Or.inl rfl
    | nullable h => exact Or.inr h
  · rintro (rfl | h)
    · exact .null
    · exact .nullable h

theorem accepts_list (item : Kind) : Accepts (.list item) = IsListOf (Accepts item) := by
  funext v
  refine propext ⟨fun h => ?_, ?_⟩
  · cases h with
    | @list _ items h => exact ⟨items, rfl, h⟩
  · rintro ⟨items, rfl, h⟩
    exact .list h

theorem accepts_record_iff {fields : Fields} {v : Json} :
    Accepts (.record fields) v ↔ ∃ members, v = .obj members ∧ FieldsAccept fields members := by
  constructor
  · intro h
    cases h with
    | @record _ members hpresent hrequired => exact ⟨members, rfl, hpresent, hrequired⟩
  · rintro ⟨members, rfl, hpresent, hrequired⟩
    exact .record hpresent hrequired

/-- A record declares a shape if its fields do. -/
theorem accepts_record {fields : Fields} {shape : List (String × Json) → Prop}
    (h : ∀ members, FieldsAccept fields members ↔ shape members) :
    Accepts (.record fields) = fun v => ∃ members, v = .obj members ∧ shape members := by
  funext v
  exact propext (accepts_record_iff.trans (exists_congr fun members => and_congr_right fun _ =>
    h members))

section

variable {name key : String} {kind : Kind} {rest : Fields} {members : List (String × Json)}

/-- A field was sent if it is present under one of its keys. -/
theorem sent_eq_some_iff (halias : aliasOf name = key) {v : Json} :
    sent key name members = some v ↔ ∃ k, Present name members k v := by
  have hsent : sent key name members = (locate name members).map Prod.snd := by
    subst halias
    unfold sent locate
    cases Json.lookup (aliasOf name) members with
    | some w => rfl
    | none => cases Json.lookup name members <;> rfl
  rw [hsent, Option.map_eq_some_iff]
  constructor
  · rintro ⟨⟨k, w⟩, hlocate, rfl⟩
    exact ⟨k, locate_eq_some_iff.1 hlocate⟩
  · rintro ⟨k, hv⟩
    exact ⟨(k, v), locate_eq_some_iff.2 hv, rfl⟩

/-- A required field has to be there. -/
theorem fieldsAccept_required_iff (halias : aliasOf name = key) :
    FieldsAccept (.cons name kind none rest) members ↔
      Must (Accepts kind) (sent key name members) ∧ FieldsAccept rest members := by
  rw [fieldsAccept_cons_iff]
  refine and_congr_left fun _ => ?_
  constructor
  · rintro ⟨hpresent, hrequired⟩
    obtain ⟨k, v, hv⟩ := (absent_or_present name members).resolve_left (hrequired rfl)
    exact ⟨v, (sent_eq_some_iff halias).2 ⟨k, hv⟩, hpresent k v hv⟩
  · rintro ⟨v, hsent, hshape⟩
    obtain ⟨k, hv⟩ := (sent_eq_some_iff halias).1 hsent
    refine ⟨fun k' v' hv' => ?_, fun _ => hv.not_absent⟩
    obtain ⟨-, rfl⟩ := hv.unique hv'
    exact hshape

/-- A field with a default may be left out. -/
theorem fieldsAccept_optional_iff (halias : aliasOf name = key) {d : Json} :
    FieldsAccept (.cons name kind (some d) rest) members ↔
      May (Accepts kind) (sent key name members) ∧ FieldsAccept rest members := by
  rw [fieldsAccept_cons_iff]
  refine and_congr_left fun _ => ?_
  constructor
  · rintro ⟨hpresent, -⟩ v hsent
    obtain ⟨k, hv⟩ := (sent_eq_some_iff halias).1 hsent
    exact hpresent k v hv
  · exact fun h => ⟨fun k v hv => h v ((sent_eq_some_iff halias).2 ⟨k, hv⟩), nofun⟩

theorem fieldsAccept_nil : FieldsAccept .nil members :=
  ⟨fun _ _ _ _ _ h => (nomatch h), fun _ _ h => (nomatch h)⟩

end

end Schema

/-! ## The five records -/

/-- The shape of an authentication. -/
def AuthenticationInfo.Shape (v : Json) : Prop :=
  ∃ members, v = .obj members ∧
    May (IsListOf IsText) (sent "schemes" "schemes" members) ∧
    May (OrNull IsText) (sent "credentials" "credentials" members)

/-- The shape of a config. -/
def PushConfig.Shape (v : Json) : Prop :=
  ∃ members, v = .obj members ∧
    Must IsText (sent "url" "url" members) ∧
    May (OrNull IsText) (sent "id" "id" members) ∧
    May (OrNull IsText) (sent "token" "token" members) ∧
    May (OrNull AuthenticationInfo.Shape) (sent "authentication" "authentication" members)

/-- The shape of a listed config. -/
def TaskPushConfig.Shape (v : Json) : Prop :=
  ∃ members, v = .obj members ∧
    Must IsText (sent "taskId" "task_id" members) ∧
    Must PushConfig.Shape (sent "pushNotificationConfig" "push_notification_config" members) ∧
    May IsText (sent "tenant" "tenant" members)

/-- The shape of a request. -/
def ListRequest.Shape (v : Json) : Prop :=
  ∃ members, v = .obj members ∧
    Must IsFilledText (sent "id" "id" members) ∧
    May IsInteger (sent "pageSize" "page_size" members) ∧
    May (OrNull IsText) (sent "pageToken" "page_token" members) ∧
    May IsText (sent "tenant" "tenant" members)

/-- The shape of a page. -/
def ConfigPage.Shape (v : Json) : Prop :=
  ∃ members, v = .obj members ∧
    May (IsListOf TaskPushConfig.Shape) (sent "configs" "configs" members) ∧
    May (OrNull IsText) (sent "nextPageToken" "next_page_token" members)

/-- **The kinds of an authentication declare its shape.** -/
theorem AuthenticationInfo.accepts_fields :
    Accepts (.record AuthenticationInfo.fields) = AuthenticationInfo.Shape := by
  refine accepts_record fun members => ?_
  have hschemes : aliasOf "schemes" = "schemes" := by decide +kernel
  have hcredentials : aliasOf "credentials" = "credentials" := by decide +kernel
  unfold AuthenticationInfo.fields
  rw [fieldsAccept_optional_iff hschemes, fieldsAccept_optional_iff hcredentials, accepts_list,
    accepts_nullable, accepts_text, and_iff_left fieldsAccept_nil]

/-- **The kinds of a config declare its shape.** -/
theorem PushConfig.accepts_fields : Accepts (.record PushConfig.fields) = PushConfig.Shape := by
  refine accepts_record fun members => ?_
  have hurl : aliasOf "url" = "url" := by decide +kernel
  have hid : aliasOf "id" = "id" := by decide +kernel
  have htoken : aliasOf "token" = "token" := by decide +kernel
  have hauthentication : aliasOf "authentication" = "authentication" := by decide +kernel
  unfold PushConfig.fields
  rw [fieldsAccept_required_iff hurl, fieldsAccept_optional_iff hid, fieldsAccept_optional_iff htoken,
    fieldsAccept_optional_iff hauthentication, accepts_nullable, accepts_nullable, accepts_text,
    AuthenticationInfo.accepts_fields, and_iff_left fieldsAccept_nil]

/-- **The kinds of a listed config declare its shape.** -/
theorem TaskPushConfig.accepts_fields :
    Accepts (.record TaskPushConfig.fields) = TaskPushConfig.Shape := by
  refine accepts_record fun members => ?_
  have htask : aliasOf "task_id" = "taskId" := by decide +kernel
  have hconfig : aliasOf "push_notification_config" = "pushNotificationConfig" := by decide +kernel
  have htenant : aliasOf "tenant" = "tenant" := by decide +kernel
  unfold TaskPushConfig.fields
  rw [fieldsAccept_required_iff htask, fieldsAccept_required_iff hconfig,
    fieldsAccept_optional_iff htenant, accepts_text, PushConfig.accepts_fields,
    and_iff_left fieldsAccept_nil]

/-- **The kinds of a request declare its shape.** -/
theorem ListRequest.accepts_fields : Accepts (.record ListRequest.fields) = ListRequest.Shape := by
  refine accepts_record fun members => ?_
  have hid : aliasOf "id" = "id" := by decide +kernel
  have hsize : aliasOf "page_size" = "pageSize" := by decide +kernel
  have htoken : aliasOf "page_token" = "pageToken" := by decide +kernel
  have htenant : aliasOf "tenant" = "tenant" := by decide +kernel
  unfold ListRequest.fields
  rw [fieldsAccept_required_iff hid, fieldsAccept_optional_iff hsize, fieldsAccept_optional_iff htoken,
    fieldsAccept_optional_iff htenant, accepts_filledText, accepts_integer, accepts_nullable,
    accepts_text, and_iff_left fieldsAccept_nil]

/-- **The kinds of a page declare its shape.** -/
theorem ConfigPage.accepts_fields : Accepts (.record ConfigPage.fields) = ConfigPage.Shape := by
  refine accepts_record fun members => ?_
  have hconfigs : aliasOf "configs" = "configs" := by decide +kernel
  have htoken : aliasOf "next_page_token" = "nextPageToken" := by decide +kernel
  unfold ConfigPage.fields
  rw [fieldsAccept_optional_iff hconfigs, fieldsAccept_optional_iff htoken, accepts_list,
    TaskPushConfig.accepts_fields, accepts_nullable, accepts_text, and_iff_left fieldsAccept_nil]

/-! ## Well-formed records -/

theorem AuthenticationInfo.wellFormed_fields : (Kind.record AuthenticationInfo.fields).WellFormed :=
  ⟨apart_fields, .optional rfl trivial (.optional rfl trivial trivial)⟩

theorem PushConfig.wellFormed_fields : (Kind.record PushConfig.fields).WellFormed :=
  ⟨apart_fields, .required trivial (.optional rfl trivial (.optional rfl trivial
    (.optional rfl AuthenticationInfo.wellFormed_fields trivial)))⟩

theorem TaskPushConfig.wellFormed_fields : (Kind.record TaskPushConfig.fields).WellFormed :=
  ⟨apart_fields, .required trivial (.required PushConfig.wellFormed_fields
    (.optional rfl trivial trivial))⟩

theorem ListRequest.wellFormed_fields : (Kind.record ListRequest.fields).WellFormed :=
  ⟨apart_fields, .required trivial (.optional rfl trivial (.optional rfl trivial
    (.optional rfl trivial trivial)))⟩

theorem ConfigPage.wellFormed_fields : (Kind.record ConfigPage.fields).WellFormed :=
  ⟨apart_fields, .optional rfl TaskPushConfig.wellFormed_fields (.optional rfl trivial trivial)⟩

/-! ## All of them -/

/-- **Validation accepts the declared shapes and reports every fault**, whatever the value and however
    deep its faults. -/
theorem validation_judges_every_value (v : Json) :
    Judged AuthenticationInfo AuthenticationInfo.Shape v ∧ Judged PushConfig PushConfig.Shape v ∧
      Judged TaskPushConfig TaskPushConfig.Shape v ∧ Judged ListRequest ListRequest.Shape v ∧
        Judged ConfigPage ConfigPage.Shape v :=
  ⟨judged AuthenticationInfo.wellFormed_fields AuthenticationInfo.accepts_fields v,
    judged PushConfig.wellFormed_fields PushConfig.accepts_fields v,
    judged TaskPushConfig.wellFormed_fields TaskPushConfig.accepts_fields v,
    judged ListRequest.wellFormed_fields ListRequest.accepts_fields v,
    judged ConfigPage.wellFormed_fields ConfigPage.accepts_fields v⟩

-- A page with faults at three depths, out of order and among keys that mean nothing.
example :
    (validate (.obj [("next_page_token", .int 1), ("configs", .arr [.null, .obj [("taskId", .str "a"),
      ("push_notification_config", .obj [("authentication", .obj [("schemes", .arr [.int 0])])])]]),
      ("more", .null)]) : Except Invalid ConfigPage) =
    .error ⟨"ListTaskPushNotificationConfigResult", .decoded,
      [⟨[.key "configs", .index 0], .notRecord⟩,
        ⟨[.key "configs", .index 1, .key "push_notification_config", .key "url"], .missing⟩,
        ⟨[.key "configs", .index 1, .key "push_notification_config", .key "authentication",
          .key "schemes", .index 0], .notText⟩,
        ⟨[.key "next_page_token"], .notText⟩]⟩ :=
  rfl

end WebhookRegistry
