/-
  Collections in which no key comes twice.

  A put of a new key goes to the end and a put of a known one stays in place, so putting and erasing
  never repeat a key. In a collection without repeated keys the view `get?` and membership say the same:
  an entry is in the collection exactly when its key shows its value.
-/
import WebhookRegistry.Entries

namespace WebhookRegistry.Entries

variable {κ α : Type} [DecidableEq κ]

/-! ## Keys -/

theorem keys_put (key : κ) (value : α) (entries : Entries κ α) :
    (entries.put key value).keys =
      if key ∈ entries.keys then entries.keys else entries.keys ++ [key] := by
  induction entries with
  | nil => rfl
  | cons entry rest ih =>
    obtain ⟨k, a⟩ := entry
    by_cases hk : k = key
    · simp [put, keys, hk]
    · -- The first key stays where it is, whatever happens behind it.
      have hmem : key ∈ keys ((k, a) :: rest) ↔ key ∈ keys rest := by
        simp [keys, eq_comm (a := key), hk]
      have hput : (put key value ((k, a) :: rest)).keys = k :: (put key value rest).keys := by
        simp [put, keys, hk]
      rw [hput, ih]
      by_cases hr : key ∈ keys rest
      · rw [if_pos hr, if_pos (hmem.2 hr)]
        rfl
      · rw [if_neg hr, if_neg fun h => hr (hmem.1 h)]
        rfl

/-- **A put repeats no key.** -/
theorem nodup_keys_put {key : κ} {value : α} {entries : Entries κ α} (h : entries.keys.Nodup) :
    (entries.put key value).keys.Nodup := by
  rw [keys_put]
  by_cases hk : key ∈ entries.keys
  · rw [if_pos hk]
    exact h
  · rw [if_neg hk, List.nodup_append]
    refine ⟨h, by simp, ?_⟩
    rintro a ha b hb rfl
    rw [List.mem_singleton] at hb
    exact hk (hb ▸ ha)

/-- Where no key comes twice no entry does. -/
theorem nodup_of_nodup_keys {κ α : Type} {entries : Entries κ α} (h : entries.keys.Nodup) : entries.Nodup :=
  (List.pairwise_map.1 h).imp fun hne heq => hne (congrArg Prod.fst heq)

theorem put_ne_nil (key : κ) (value : α) (entries : Entries κ α) : entries.put key value ≠ [] := by
  cases entries with
  | nil => exact List.cons_ne_nil _ _
  | cons entry rest =>
    unfold put
    split <;> exact List.cons_ne_nil _ _

/-- Putting what is seen already changes nothing. -/
theorem put_of_get? {key : κ} {value : α} {entries : Entries κ α} (h : entries.get? key = some value) :
    entries.put key value = entries := by
  induction entries with
  | nil => cases h
  | cons entry rest ih =>
    obtain ⟨k, a⟩ := entry
    by_cases hk : k = key
    · rw [get?, if_pos hk] at h
      cases h
      rw [put, if_pos hk]
    · rw [get?, if_neg hk] at h
      rw [put, if_neg hk, ih h]

theorem nodup_keys_erase {key : κ} {entries : Entries κ α} (h : entries.keys.Nodup) :
    (entries.erase key).keys.Nodup :=
  h.sublist (List.filter_sublist.map Prod.fst)

/-- Erasing a key that is not there changes nothing. -/
theorem erase_of_get?_eq_none {key : κ} {entries : Entries κ α} (h : entries.get? key = none) :
    entries.erase key = entries := by
  have hkeys : key ∉ entries.map Prod.fst := get?_eq_none_iff.1 h
  refine List.filter_eq_self.2 fun entry hentry => decide_eq_true fun hkey => ?_
  exact hkeys (hkey ▸ List.mem_map_of_mem hentry)

/-! ## Puts, erasures and changes under two keys -/

/-- What a put leaves in a collection is the new entry or was there before. -/
theorem mem_put {key : κ} {value : α} {entries : Entries κ α} {entry : κ × α}
    (h : entry ∈ entries.put key value) : entry = (key, value) ∨ entry ∈ entries := by
  induction entries with
  | nil => exact Or.inl (List.mem_singleton.1 h)
  | cons first rest ih =>
    obtain ⟨k, a⟩ := first
    by_cases hk : k = key
    · rw [put, if_pos hk] at h
      rcases List.mem_cons.1 h with h | h
      · exact Or.inl (hk ▸ h)
      · exact Or.inr (List.mem_cons_of_mem _ h)
    · rw [put, if_neg hk] at h
      rcases List.mem_cons.1 h with h | h
      · exact Or.inr (h ▸ List.mem_cons_self)
      · exact (ih h).imp id (List.mem_cons_of_mem _)

/-! ## The view and the members -/

/-- What the view shows is in the collection. -/
theorem mem_of_get? {key : κ} {value : α} {entries : Entries κ α}
    (h : entries.get? key = some value) : (key, value) ∈ entries := by
  induction entries with
  | nil => cases h
  | cons entry rest ih =>
    obtain ⟨k, a⟩ := entry
    by_cases hk : k = key
    · rw [get?, if_pos hk] at h
      cases h
      rw [hk]
      exact List.mem_cons_self
    · rw [get?, if_neg hk] at h
      exact List.mem_cons_of_mem _ (ih h)

/-- **Without repeated keys the view shows every entry.** -/
theorem mem_iff_get? {key : κ} {value : α} {entries : Entries κ α} (h : entries.keys.Nodup) :
    (key, value) ∈ entries ↔ entries.get? key = some value := by
  refine ⟨fun hmem => ?_, mem_of_get?⟩
  induction entries with
  | nil => cases hmem
  | cons entry rest ih =>
    obtain ⟨k, a⟩ := entry
    have hnot : k ∉ rest.map Prod.fst := (List.nodup_cons.1 h).1
    rcases List.mem_cons.1 hmem with heq | hmem
    · cases heq
      rw [get?, if_pos rfl]
    · have hk : k ≠ key := by
        rintro rfl
        exact hnot (List.mem_map.2 ⟨_, hmem, rfl⟩)
      rw [get?, if_neg hk]
      exact ih (List.nodup_cons.1 h).2 hmem

end WebhookRegistry.Entries
