/-
  Several fields put into an event.

  Fields are put in one after another (`putAll`). Known keys keep their places and new ones go to the end
  (`keys_putAll`); of the values put under one key the last one is seen (`get?_putAll`), as it is when a
  key is looked up among the members of an object.
-/
import WebhookRegistry.Logging.Metadata
import WebhookRegistry.Proofs.Entries

namespace WebhookRegistry

/-! ## Looking up among additions -/

namespace Json

theorem mem_of_lookup {key : String} {v : Json} {members : List (String × Json)}
    (h : lookup key members = some v) : (key, v) ∈ members := by
  induction members with
  | nil => cases h
  | cons member rest ih =>
    obtain ⟨k, w⟩ := member
    rw [lookup] at h
    cases hrest : lookup key rest with
    | some u =>
      rw [hrest] at h
      cases h
      exact List.mem_cons_of_mem _ (ih hrest)
    | none =>
      rw [hrest] at h
      dsimp only at h
      by_cases hk : k = key
      · rw [if_pos hk] at h
        cases h
        rw [hk]
        exact List.mem_cons_self
      · rw [if_neg hk] at h
        cases h

/-- Where the members under a key agree, any of them is the one that is looked up. -/
theorem lookup_eq_some_iff_mem {key : String} {v : Json} {members : List (String × Json)}
    (hagree : ∀ w u, (key, w) ∈ members → (key, u) ∈ members → w = u) :
    lookup key members = some v ↔ (key, v) ∈ members := by
  refine ⟨mem_of_lookup, fun hmem => ?_⟩
  cases hlookup : lookup key members with
  | none => exact absurd (List.mem_map_of_mem hmem) (lookup_eq_none_iff.1 hlookup)
  | some w => rw [hagree w v (mem_of_lookup hlookup) hmem]

end Json

/-! ## Several puts -/

namespace Entries

/-- Puts values under their keys, one after another. -/
def putAll (additions : List (String × Json)) (fields : LogFields) : LogFields :=
  additions.foldl (fun fields (key, v) => fields.put key v) fields

theorem putAll_cons (key : String) (v : Json) (rest : List (String × Json)) (fields : LogFields) :
    putAll ((key, v) :: rest) fields = putAll rest (fields.put key v) := rfl

theorem putAll_append (first second : List (String × Json)) (fields : LogFields) :
    putAll (first ++ second) fields = putAll second (putAll first fields) := List.foldl_append

/-- **The last value put under a key is seen**, and under other keys what was seen before. -/
theorem get?_putAll (key : String) (additions : List (String × Json)) (fields : LogFields) :
    (putAll additions fields).get? key = (Json.lookup key additions).or (fields.get? key) := by
  induction additions generalizing fields with
  | nil => rfl
  | cons addition rest ih =>
    obtain ⟨k, v⟩ := addition
    rw [putAll_cons, ih, get?_put, Json.lookup]
    cases Json.lookup key rest with
    | some w => rfl
    | none => by_cases hk : k = key <;> simp [hk]

/-- **Known keys keep their places**; the new ones come after them. -/
theorem keys_putAll (additions : List (String × Json)) (fields : LogFields) :
    ∃ appended, (putAll additions fields).keys = fields.keys ++ appended ∧
      ∀ key ∈ appended, key ∈ keys additions := by
  induction additions generalizing fields with
  | nil => exact ⟨[], (List.append_nil _).symm, nofun⟩
  | cons addition rest ih =>
    obtain ⟨k, v⟩ := addition
    obtain ⟨appended, hkeys, hmem⟩ := ih (fields.put k v)
    rw [putAll_cons, hkeys, keys_put]
    by_cases hk : k ∈ fields.keys
    · rw [if_pos hk]
      exact ⟨appended, rfl, fun key hkey => List.mem_cons_of_mem _ (hmem key hkey)⟩
    · rw [if_neg hk, List.append_assoc]
      refine ⟨k :: appended, rfl, fun key hkey => ?_⟩
      rcases List.mem_cons.1 hkey with rfl | hkey
      · exact List.mem_cons_self
      · exact List.mem_cons_of_mem _ (hmem key hkey)

theorem nodup_keys_putAll {additions : List (String × Json)} {fields : LogFields}
    (h : fields.keys.Nodup) : (putAll additions fields).keys.Nodup := by
  induction additions generalizing fields with
  | nil => exact h
  | cons addition rest ih => exact ih (nodup_keys_put h)

/-- Values that are seen already change nothing. -/
theorem putAll_of_get? {additions : List (String × Json)} {fields : LogFields}
    (h : ∀ key v, (key, v) ∈ additions → fields.get? key = some v) :
    putAll additions fields = fields := by
  induction additions with
  | nil => rfl
  | cons addition rest ih =>
    obtain ⟨k, v⟩ := addition
    rw [putAll_cons, put_of_get? (h k v List.mem_cons_self)]
    exact ih fun key w hw => h key w (List.mem_cons_of_mem _ hw)

end Entries

end WebhookRegistry
