/-
  Pages of an ordered listing.

  A page takes items off the front of a listing, and its token names the last of them. Two facts carry
  everything about page after page: what a cut gives (`cut_cases`: the whole listing without a token, or
  a full page with the token of its last item and something left over), and where the next page starts
  (`ordered_after`: right behind that item, so it finds exactly what was left over). A query that takes
  one row more than the page holds learns the same as one that takes all of them (`cut_take_succ`).
-/
import WebhookRegistry.Proofs.Paging.Order
import WebhookRegistry.Proofs.Paging.TokenRoundTrip

namespace WebhookRegistry

/-! ## Cursors at a place -/

/-- Whether a cursor names a place. -/
def Cursor.At (cursor : Cursor) (p : Position) : Prop :=
  cursor.time.toInstant = p.sortInstant ∧ cursor.id = p.id

namespace Position

/-- **The token of a place names it** if its time is a whole number of milliseconds. -/
theorem decode_token {p : Position} (h : p.IsExact) :
    ∃ cursor, PageToken.decode (some p.token) = .ok (some cursor) ∧ cursor.At p := by
  refine ⟨_, PageToken.decode_encode _ _, ?_, rfl⟩
  rw [LogicalTime.toInstant_of, toInstant_of_createdAt, Instant.floorMillis_of_isWholeMillis h]
  rfl

/-- After a cursor come the places that come after its own. -/
theorem follows_iff_of_at {cursor : Cursor} {p q : Position} (h : cursor.At p) :
    q.follows (some cursor) = true ↔ p.Before q := by
  rw [follows_iff]
  unfold Before
  rw [show cursor.position.sortInstant = p.sortInstant from h.1,
    show cursor.position.id = p.id from h.2]

/-- What comes after a place that follows a cursor follows the cursor too. -/
theorem follows_of_before {cursor : Option Cursor} {p q : Position}
    (hp : p.follows cursor = true) (hpq : p.Before q) : q.follows cursor = true := by
  cases cursor with
  | none => rfl
  | some c => exact follows_iff.2 ((follows_iff.1 hp).trans hpq)

end Position

namespace Keyset

variable {α β : Type} {place : α → Position}

/-! ## Cutting a page off -/

/-- **A cut gives the whole listing and no token, or a full page and the token of its last item**; then
    something is left over. -/
theorem cut_cases (place : α → Position) {size : Nat} (hsize : 1 ≤ size) (items : List α) :
    (items.length ≤ size ∧ cut place size items = (items, none)) ∨
      ∃ front last rest, items = front ++ last :: rest ∧ rest ≠ [] ∧ front.length + 1 = size ∧
        cut place size items = (front ++ [last], some (place last).token) := by
  by_cases hfits : items.length ≤ size
  · exact Or.inl ⟨hfits, cut_of_length_le hfits⟩
  · refine Or.inr ?_
    have hlast : size - 1 < items.length := by omega
    -- The page with its last item set apart, whose token it gets.
    have htake : items.take size = items.take (size - 1) ++ [items[size - 1]] := by
      have hsucc := List.take_succ_eq_append_getElem hlast
      rw [Nat.sub_add_cancel hsize] at hsucc
      exact hsucc
    have hdrop : items.drop size ≠ [] := by
      rw [← List.length_pos_iff, List.length_drop]
      omega
    refine ⟨items.take (size - 1), items[size - 1], items.drop size, ?_, hdrop, ?_, ?_⟩
    · have hsplit := List.take_append_drop size items
      rw [htake, List.append_assoc] at hsplit
      exact hsplit.symm
    · rw [List.length_take]
      omega
    · unfold cut
      rw [if_pos (by omega), htake]
      simp only [List.getLast?_concat, Option.map_some]

/-- **A page holds the first items of its listing.** -/
theorem fst_cut (place : α → Position) (size : Nat) (items : List α) :
    (cut place size items).1 = items.take size := by
  unfold cut
  by_cases h : size < items.length
  · rw [if_pos h]
  · rw [if_neg h, List.take_of_length_le (by omega)]

/-- **A page has no token exactly when its listing fits.** -/
theorem snd_cut_eq_none_iff {size : Nat} (hsize : 1 ≤ size) {items : List α} :
    (cut place size items).2 = none ↔ items.length ≤ size := by
  rcases cut_cases place hsize items with ⟨hfits, hcut⟩ | ⟨front, last, rest, rfl, hrest, hfull, hcut⟩
  · simp only [hcut, hfits]
  · have hmore := List.length_pos_iff.2 hrest
    simp only [hcut, reduceCtorEq, false_iff, List.length_append, List.length_cons]
    omega

/-- **A token names the last item of its page**, which all that is left over stands behind. -/
theorem split_of_snd_cut {size : Nat} (hsize : 1 ≤ size) {items : List α} {token : String}
    (h : (cut place size items).2 = some token) :
    ∃ front last, items = front ++ last :: items.drop size ∧
      (items.take size).getLast? = some last ∧ token = (place last).token := by
  rcases cut_cases place hsize items with ⟨-, hcut⟩ | ⟨front, last, rest, rfl, -, hfull, hcut⟩
  · rw [hcut] at h
    cases h
  · rw [hcut] at h
    cases h
    have hpage : (front ++ [last]).length = size := by
      rw [List.length_append, List.length_singleton]
      exact hfull
    rw [List.append_cons front last rest, List.drop_left' hpage, List.take_left' hpage]
    exact ⟨front, last, (List.append_cons front last rest).symm, List.getLast?_concat, rfl⟩

/-- A page is a part of its listing. -/
theorem cut_sublist (place : α → Position) (size : Nat) (items : List α) :
    (cut place size items).1.Sublist items := by
  unfold cut
  by_cases h : size < items.length
  · rw [if_pos h]
    exact List.take_sublist _ _
  · simp only [if_neg h, List.Sublist.refl]

/-- **One item more than a page is enough** to cut it off. -/
theorem cut_take_succ (place : α → Position) (size : Nat) (items : List α) :
    cut place size (items.take (size + 1)) = cut place size items := by
  unfold cut
  rw [List.length_take]
  by_cases h : size < items.length
  · rw [if_pos (by omega), if_pos h, List.take_take, Nat.min_eq_left (by omega)]
  · rw [if_neg (by omega), if_neg h, List.take_of_length_le (by omega)]

/-- A cut of items in another form is the same cut in that form. -/
theorem cut_map {place' : β → Position} {f : α → β} (hf : ∀ a, place' (f a) = place a) (size : Nat)
    (items : List α) :
    cut place' size (items.map f) = ((cut place size items).1.map f, (cut place size items).2) := by
  unfold cut
  rw [List.length_map]
  by_cases h : size < items.length
  · rw [if_pos h, if_pos h, ← List.map_take]
    dsimp only
    rw [List.getLast?_map, Option.map_map]
    congr 2
    funext a
    show (place' (f a)).token = (place a).token
    rw [hf a]
  · rw [if_neg h, if_neg h]

/-- A page of rows in another form is the same page in that form. -/
theorem cut_ordered_map {place' : β → Position} {f : α → β} (hf : ∀ a, place' (f a) = place a)
    (size : Nat) (cursor : Option Cursor) (rows : List α) :
    cut place' size (ordered place' cursor (rows.map f)) =
      ((cut place size (ordered place cursor rows)).1.map f,
        (cut place size (ordered place cursor rows)).2) := by
  rw [← map_ordered hf, cut_map hf]

/-- **A full page holds what does not come after its last item.** -/
theorem mem_page_iff {front rest : List α} {last : α}
    (horder : InOrder place (front ++ last :: rest)) {a : α} :
    a ∈ front ++ [last] ↔ a ∈ front ++ last :: rest ∧ ¬ (place last).Before (place a) := by
  obtain ⟨-, htail, hfront⟩ := List.pairwise_append.1 horder
  have hrest := (List.pairwise_cons.1 htail).1
  rw [List.mem_append, List.mem_singleton, List.mem_append, List.mem_cons]
  constructor
  · rintro (h | rfl)
    · exact ⟨Or.inl h, (hfront a h last List.mem_cons_self).asymm⟩
    · exact ⟨Or.inr (Or.inl rfl), Position.not_before_self _⟩
  · rintro ⟨h | h | h, hnot⟩
    · exact Or.inl h
    · exact Or.inr h
    · exact absurd (hrest a h) hnot

/-! ## The next page -/

/-- What comes after an item of an ordered list stands behind it. -/
theorem mem_rest_of_before {front rest : List α} {last a : α}
    (horder : InOrder place (front ++ last :: rest)) (ha : a ∈ front ++ last :: rest)
    (hbefore : (place last).Before (place a)) : a ∈ rest := by
  obtain ⟨-, -, hfront⟩ := List.pairwise_append.1 horder
  rcases List.mem_append.1 ha with h | h
  · exact absurd hbefore (hfront a h last List.mem_cons_self).asymm
  · rcases List.mem_cons.1 h with rfl | h
    · exact absurd hbefore (Position.not_before_self _)
    · exact h

/-- **The next page starts right behind the last item of this one**: what comes after it is what the
    listing had left over. -/
theorem ordered_after {cursor : Option Cursor} {next : Cursor} {rows front rest : List α} {last : α}
    (hids : (rows.map fun row => (place row).id).Nodup)
    (hsplit : ordered place cursor rows = front ++ last :: rest) (hnext : next.At (place last)) :
    ordered place (some next) rows = rest := by
  have horder : InOrder place (front ++ last :: rest) := hsplit ▸ inOrder_ordered hids
  obtain ⟨-, htail, -⟩ := List.pairwise_append.1 horder
  obtain ⟨hafter, hrest⟩ := List.pairwise_cons.1 htail
  have hmem : ∀ a, a ∈ front ++ last :: rest ↔ a ∈ rows ∧ (place a).follows cursor = true := by
    intro a
    rw [← hsplit, mem_ordered]
  refine eq_of_inOrder (inOrder_ordered hids) hrest fun a => ?_
  rw [mem_ordered, Position.follows_iff_of_at hnext]
  constructor
  · rintro ⟨hrow, hbefore⟩
    have hlast := ((hmem last).1 (List.mem_append_right _ List.mem_cons_self)).2
    have hlisted := (hmem a).2 ⟨hrow, Position.follows_of_before hlast hbefore⟩
    exact mem_rest_of_before horder hlisted hbefore
  · intro h
    exact ⟨((hmem a).1 (List.mem_append_right _ (List.mem_cons_of_mem _ h))).1, hafter a h⟩

end Keyset

end WebhookRegistry
