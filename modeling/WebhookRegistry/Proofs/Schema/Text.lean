/-
  Values of a schema read back from the text that is stored.

  A value is written as the compact text of its JSON. The JSON of a schema nests only as deep as its
  kinds do, so it stays within the limits of the reader; hence the text parses to the same JSON
  (`Json.parse?_render`), and the JSON checks to the value again as soon as its record comes back
  (`Back`).
-/
import WebhookRegistry.Proofs.Json.RoundTrip
import WebhookRegistry.Proofs.Schema.RoundTrip
import WebhookRegistry.Schema.Described

namespace WebhookRegistry.Schema

open Json (Fits FitItems FitMembers)

/-! ## Within the limits of the reader -/

theorem fits_optional {width depth : Nat} {kind : Kind} {x : Option kind.Carrier}
    (h : ∀ a, x = some a → Fits width (encode .wire kind a) depth) :
    Fits width (encode .wire (.nullable kind) x) depth := by
  cases x with
  | none => trivial
  | some a => exact h a rfl

theorem fitItems_map {α : Type} {width depth : Nat} {encodeItem : α → Json} :
    ∀ {items : List α}, (∀ a ∈ items, Fits width (encodeItem a) depth) →
      FitItems width (items.map encodeItem) depth
  | [], _ => trivial
  | a :: _, h => ⟨h a List.mem_cons_self, fitItems_map fun b hb => h b (List.mem_cons_of_mem a hb)⟩

theorem fits_list {width depth : Nat} {item : Kind} {xs : List item.Carrier}
    (h : ∀ x ∈ xs, Fits width (encode .wire item x) depth) :
    Fits width (encode .wire (.list item) xs) (depth + 1) :=
  ⟨Nat.succ_pos depth, fitItems_map h⟩

/-- Whether all fields of a record are within the limits. -/
def FieldsFit (width depth : Nat) : (fields : Fields) → fields.Carrier → Prop
  | .nil, _ => True
  | .cons _ kind _ rest, x => Fits width (encode .wire kind x.1) depth ∧ FieldsFit width depth rest x.2

theorem fitMembers_encodeFields {width depth : Nat} : ∀ {fields : Fields} {x : fields.Carrier},
    FieldsFit width depth fields x → FitMembers width (encodeFields .wire fields x) depth
  | .nil, _, _ => trivial
  | .cons name kind default rest, x, ⟨hx, hrest⟩ => by
    rw [encodeFields_cons]
    -- A field that is null is left out and needs no room.
    by_cases hnull : encode .wire kind x.1 = .null
    · rw [hnull, addMember_null]
      exact fitMembers_encodeFields hrest
    · rw [addMember_wire name hnull]
      exact ⟨hx, fitMembers_encodeFields hrest⟩

theorem fits_record {width depth : Nat} {fields : Fields} {x : fields.Carrier}
    (h : FieldsFit width depth fields x) : Fits width (encode .wire (.record fields) x) (depth + 1) :=
  ⟨Nat.succ_pos depth, fitMembers_encodeFields h⟩

/-! ## Texts -/

/-- **A written value reads back** if its record comes back and its JSON is within the limits. -/
theorem readText_writeText {α : Type} [Described α] {a : α} {received : (Described.fields α).Carrier}
    (hback : Back (.record (Described.fields α)) (Described.toTuple a) received)
    (hfits : Fits Json.payloadLimits.width (toJson .wire a) Json.payloadLimits.depth) :
    readText (writeText a) = .ok (Described.ofTuple received : α) := by
  unfold readText writeText
  rw [Json.parse?_render hfits]
  dsimp only
  unfold toJson
  unfold Back at hback
  rw [hback]
  rfl

/-- A value whose fields all come back as they were reads back as it was. -/
theorem readText_writeText_self {α : Type} [Described α] {a : α} {depth : Nat}
    (hback : Back (.record (Described.fields α)) (Described.toTuple a) (Described.toTuple a))
    (hfits : Fits Json.payloadLimits.width (toJson .wire a) depth)
    (hdepth : depth ≤ Json.payloadLimits.depth)
    (hself : (Described.ofTuple (Described.toTuple a) : α) = a) : readText (writeText a) = .ok a := by
  rw [readText_writeText hback (hfits.mono hdepth), hself]

end WebhookRegistry.Schema
