/-
  Listings of times finer than a token can carry.

  A token names the whole millisecond of its item, so its place is `Position.rounded`: the place of the
  item, or a later one. What comes after the rounded place comes after the place itself
  (`Before.of_rounded`), so a page never starts too early; it may start too late and skip items.

  The two readings of the order compare at different resolutions: a query to the microsecond, the
  collection in memory to the millisecond. `Resolution` says what they have in common, `ranked` is the
  listing at a resolution, and both readings are such listings (`ordered_eq_ranked` and
  `listing_eq_ranked`). At any resolution the next page is a part of what the page had left over
  (`mem_rest_of_mem_ranked`).
-/
import WebhookRegistry.Proofs.Paging.Pages

namespace WebhookRegistry

namespace Position

/-- The place that the token of a place names: its whole millisecond, with the same id. -/
def rounded (p : Position) : Position := ⟨some p.sortInstant.floorMillis, p.id⟩

/-- **The token of a place names its rounded place**, whatever the time. -/
theorem decode_token_rounded (p : Position) :
    ∃ cursor, PageToken.decode (some p.token) = .ok (some cursor) ∧ cursor.At p.rounded := by
  refine ⟨_, PageToken.decode_encode _ _, ?_, rfl⟩
  rw [LogicalTime.toInstant_of, toInstant_of_createdAt]
  rfl

theorem micros_rounded (p : Position) :
    p.rounded.sortInstant.micros = 1000 * (p.sortInstant.micros / 1000) :=
  Instant.micros_floorMillis p.sortInstant

theorem isExact_rounded (p : Position) : p.rounded.IsExact :=
  Instant.isWholeMillis_floorMillis p.sortInstant

/-- **What comes after a rounded place comes after the place**: rounding goes to later places. -/
theorem Before.of_rounded {p q : Position} (h : p.rounded.Before q) : p.Before q := by
  rw [before_def, micros_rounded] at h
  rw [before_def]
  rcases h with hlt | ⟨heq, hid⟩
  · exact Or.inl (by omega)
  · by_cases hwhole : p.sortInstant.micros = q.sortInstant.micros
    · exact Or.inr ⟨hwhole, hid⟩
    · exact Or.inl (by omega)

/-- What comes after a rounded place still does when it is rounded itself. -/
theorem Before.rounded {p q : Position} (h : p.rounded.Before q) : p.rounded.Before q.rounded := by
  rw [before_def, micros_rounded] at h ⊢
  rw [micros_rounded]
  rcases h with hlt | ⟨heq, hid⟩
  · exact Or.inl (by omega)
  · exact Or.inr ⟨by omega, hid⟩

/-- Sort keys compare as rounded places do. -/
theorem keyLe_sortKey_rounded (p q : Position) :
    keyLe p.sortKey q.sortKey = p.rounded.notAfter q.rounded := by
  have hkey : ∀ r : Position, r.sortKey = r.rounded.sortKey := by
    intro r
    unfold sortKey LogicalTime.millis Instant.millis
    rw [toInstant_of_createdAt, toInstant_of_createdAt, micros_rounded,
      Int.mul_ediv_cancel_left _ (by decide)]
    rfl
  rw [hkey p, hkey q]
  exact keyLe_sortKey p.isExact_rounded q.isExact_rounded

end Position

/-! ## Resolutions -/

/-- A resolution at which places are compared. It keeps ids, and it tells a place from all that come
    after its rounded place. -/
structure Resolution where
  view : Position → Position
  id_view : ∀ p, (view p).id = p.id
  before_view : ∀ {p q : Position}, p.rounded.Before q → (view p).Before (view q)

namespace Resolution

/-- Places compared to the microsecond. -/
def micros : Resolution := ⟨id, fun _ => rfl, Position.Before.of_rounded⟩

/-- Places compared to the millisecond, rounded down. -/
def millis : Resolution := ⟨Position.rounded, fun _ => rfl, Position.Before.rounded⟩

end Resolution

namespace Keyset

variable {α : Type} {place : α → Position} {resolution : Resolution}

/-- Whether a list is strictly in the order of its places at a resolution. -/
def InOrderAt (resolution : Resolution) (place : α → Position) (items : List α) : Prop :=
  InOrder (fun item => resolution.view (place item)) items

/-- The items after a cursor in the order of their places at a resolution. The cursor is compared to the
    microsecond. -/
def ranked (resolution : Resolution) (place : α → Position) (cursor : Option Cursor) (items : List α) :
    List α :=
  ordered (fun item => resolution.view (place item)) none
    (items.filter fun item => (place item).follows cursor)

theorem mem_ranked {cursor : Option Cursor} {items : List α} {a : α} :
    a ∈ ranked resolution place cursor items ↔ a ∈ items ∧ (place a).follows cursor = true := by
  unfold ranked
  rw [mem_ordered, List.mem_filter]
  exact and_iff_left rfl

/-- **A listing is strictly ordered at its resolution** if no two items have one id. -/
theorem inOrderAt_ranked {cursor : Option Cursor} {items : List α}
    (h : (items.map fun item => (place item).id).Nodup) :
    InOrderAt resolution place (ranked resolution place cursor items) := by
  refine inOrder_ordered ?_
  simp only [resolution.id_view]
  exact h.sublist (List.filter_sublist.map _)

/-- Without a cursor every item is listed once. -/
theorem ranked_none_perm (items : List α) : (ranked resolution place none items).Perm items := by
  have hall : items.filter (fun item => (place item).follows none) = items :=
    List.filter_eq_self.2 fun _ _ => rfl
  unfold ranked
  rw [hall]
  exact ordered_none_perm items

/-- **A query lists to the microsecond.** -/
theorem ordered_eq_ranked (cursor : Option Cursor) (rows : List α) :
    ordered place cursor rows = ranked .micros place cursor rows :=
  (ordered_none _).symm

/-- **The collection in memory lists to the millisecond.** -/
theorem listing_eq_ranked (cursor : Option Cursor) (items : List α) :
    listing place cursor items = ranked .millis place cursor items := by
  unfold listing ranked
  rw [ordered_none]
  simp only [Position.isAfter_eq_follows, Position.keyLe_sortKey_rounded]
  rfl

/-- **The next page is a part of what this one had left over**: it starts at the rounded place of the
    last item or behind it, so it shows nothing that was shown. -/
theorem mem_rest_of_mem_ranked {cursor : Option Cursor} {next : Cursor} {items front rest : List α}
    {last : α} (hsplit : ranked resolution place cursor items = front ++ last :: rest)
    (hids : (items.map fun item => (place item).id).Nodup) (hnext : next.At (place last).rounded)
    {a : α} (ha : a ∈ ranked resolution place (some next) items) : a ∈ rest := by
  have horder : InOrderAt resolution place (front ++ last :: rest) := hsplit ▸ inOrderAt_ranked hids
  have hlast : last ∈ ranked resolution place cursor items := by
    rw [hsplit]
    exact List.mem_append_right _ List.mem_cons_self
  obtain ⟨hmem, hfollows⟩ := mem_ranked.1 ha
  have hbefore := (Position.follows_iff_of_at hnext).1 hfollows
  have hlisted : a ∈ front ++ last :: rest := by
    rw [← hsplit, mem_ranked]
    exact ⟨hmem, Position.follows_of_before (mem_ranked.1 hlast).2 hbefore.of_rounded⟩
  exact mem_rest_of_before horder hlisted (resolution.before_view hbefore)

end Keyset

end WebhookRegistry
