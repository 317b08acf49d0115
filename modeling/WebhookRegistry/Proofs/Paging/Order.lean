/-
  The order in which the configs of a task are listed.

  `Before` says the order once, without a sort: newer first, then by ascending id, a config without a
  time at the epoch. It is a strict total order on places, and every reading of the order in the library
  comes down to it:

  1. a query sorts by it and starts after a cursor by it (`notAfter_iff`, `follows_iff`), so what a query
     finds is strictly ordered as soon as no two rows have one id (`inOrder_ordered`);

  2. on times that are whole milliseconds the collection in memory is sorted by it too
     (`listing_eq_ordered`);

  3. a strictly ordered list is determined by its members (`eq_of_inOrder`), so neither the order
     in which rows lie in a table nor that of a collection can be seen in a listing.
-/
import WebhookRegistry.Paging.Keyset

namespace WebhookRegistry

namespace Position

/-- Whether a config is listed before another one: it is newer, or of the same time with a smaller id. -/
def Before (p q : Position) : Prop :=
  q.sortInstant < p.sortInstant ∨ (p.sortInstant = q.sortInstant ∧ p.id < q.id)

instance (p q : Position) : Decidable (p.Before q) := inferInstanceAs (Decidable (_ ∨ _))

/-- Whether the time at which a config is sorted is a whole number of milliseconds. -/
def IsExact (p : Position) : Prop := p.sortInstant.IsWholeMillis

instance (p : Position) : Decidable p.IsExact := inferInstanceAs (Decidable p.sortInstant.IsWholeMillis)

/-! ## A strict total order -/

theorem before_def {p q : Position} :
    p.Before q ↔ q.sortInstant.micros < p.sortInstant.micros ∨
      (p.sortInstant.micros = q.sortInstant.micros ∧ p.id < q.id) := by
  unfold Before
  rw [Instant.lt_def, Instant.ext_iff]

theorem not_before_self (p : Position) : ¬ p.Before p := by
  rw [before_def]
  rintro (h | ⟨-, h⟩)
  · omega
  · exact String.lt_irrefl _ h

theorem Before.trans {p q r : Position} (hpq : p.Before q) (hqr : q.Before r) : p.Before r := by
  rw [before_def] at hpq hqr ⊢
  rcases hpq with h1 | ⟨h1, hid1⟩
  · rcases hqr with h2 | ⟨h2, -⟩
    · exact Or.inl (by omega)
    · exact Or.inl (by omega)
  · rcases hqr with h2 | ⟨h2, hid2⟩
    · exact Or.inl (by omega)
    · exact Or.inr ⟨by omega, String.lt_trans hid1 hid2⟩

theorem Before.asymm {p q : Position} (hpq : p.Before q) : ¬ q.Before p :=
  fun hqp => not_before_self p (hpq.trans hqp)

/-- **The order is total**: of two places with different ids one comes first. -/
theorem before_or_before {p q : Position} (h : p.id ≠ q.id) : p.Before q ∨ q.Before p := by
  rw [before_def, before_def]
  rcases Int.lt_trichotomy p.sortInstant.micros q.sortInstant.micros with hlt | heq | hgt
  · exact Or.inr (Or.inl hlt)
  · have hid : p.id < q.id ∨ q.id < p.id := by
      rcases String.le_total p.id q.id with hle | hle
      · exact Or.inl (String.not_le.1 fun hge => h (String.le_antisymm hle hge))
      · exact Or.inr (String.not_le.1 fun hge => h (String.le_antisymm hge hle))
    rcases hid with hid | hid
    · exact Or.inl (Or.inr ⟨heq, hid⟩)
    · exact Or.inr (Or.inr ⟨heq.symm, hid⟩)
  · exact Or.inl (Or.inl hgt)

/-! ## The readings of the order -/

/-- **A query sorts by `Before`.** -/
theorem notAfter_iff {p q : Position} : p.notAfter q = true ↔ ¬ q.Before p := by
  unfold notAfter
  rw [Bool.or_eq_true, Bool.and_eq_true, decide_eq_true_eq, decide_eq_true_eq, decide_eq_true_eq,
    before_def, Instant.lt_def, Instant.ext_iff, ← String.not_lt]
  constructor
  · rintro (h | ⟨h, hid⟩) (h' | ⟨h', hid'⟩)
    · omega
    · omega
    · omega
    · exact hid hid'
  · intro h
    rcases Int.lt_trichotomy q.sortInstant.micros p.sortInstant.micros with hlt | heq | hgt
    · exact Or.inl hlt
    · exact Or.inr ⟨heq.symm, fun hid => h (Or.inr ⟨heq, hid⟩)⟩
    · exact absurd (Or.inl hgt) h

theorem notAfter_trans {p q r : Position} (hpq : p.notAfter q = true) (hqr : q.notAfter r = true) :
    p.notAfter r = true := by
  unfold notAfter at *
  simp only [Bool.or_eq_true, Bool.and_eq_true, decide_eq_true_eq, Instant.lt_def,
    Instant.ext_iff] at *
  rcases hpq with h1 | ⟨h1, hid1⟩
  · rcases hqr with h2 | ⟨h2, -⟩
    · exact Or.inl (by omega)
    · exact Or.inl (by omega)
  · rcases hqr with h2 | ⟨h2, hid2⟩
    · exact Or.inl (by omega)
    · exact Or.inr ⟨by omega, String.le_trans hid1 hid2⟩

end Position

/-- The place that a cursor names. -/
def Cursor.position (cursor : Cursor) : Position := ⟨some cursor.time.toInstant, cursor.id⟩

namespace Position

/-- **A query starts strictly after the place of its cursor.** -/
theorem follows_iff {cursor : Cursor} {p : Position} :
    p.follows (some cursor) = true ↔ cursor.position.Before p := by
  unfold follows
  rw [Bool.or_eq_true, Bool.and_eq_true, decide_eq_true_eq, decide_eq_true_eq, decide_eq_true_eq]
  unfold Before
  rw [@eq_comm _ p.sortInstant]
  rfl

/-- Every place follows no cursor, and one follows a cursor if it comes strictly after it. -/
theorem follows_iff_forall {cursor : Option Cursor} {p : Position} :
    p.follows cursor = true ↔ ∀ c ∈ cursor, c.position.Before p := by
  cases cursor with
  | none =>
    constructor
    · intro _ c hc
      cases hc
    · intro _
      rfl
  | some cursor =>
    rw [follows_iff]
    constructor
    · intro h c hc
      cases hc
      exact h
    · intro h
      exact h cursor rfl

/-- On whole milliseconds the sort keys of two places compare as the places do. -/
theorem keyLe_sortKey {p q : Position} (hp : p.IsExact) (hq : q.IsExact) :
    keyLe p.sortKey q.sortKey = p.notAfter q := by
  have hmillis : ∀ r : Position, (LogicalTime.of r.createdAt).millis = r.sortInstant.micros / 1000 := by
    intro r
    show (LogicalTime.of r.createdAt).toInstant.micros / 1000 = _
    rw [toInstant_of_createdAt]
  -- A multiple of 1000 is determined by its quotient, and compares as its quotient does.
  unfold IsExact Instant.IsWholeMillis at hp hq
  rw [Bool.eq_iff_iff]
  unfold keyLe notAfter sortKey
  simp only [Bool.or_eq_true, Bool.and_eq_true, decide_eq_true_eq, hmillis, Instant.lt_def,
    Instant.ext_iff]
  constructor
  · rintro (h | ⟨h, hid⟩)
    · exact Or.inl (by omega)
    · exact Or.inr ⟨by omega, hid⟩
  · rintro (h | ⟨h, hid⟩)
    · exact Or.inl (by omega)
    · exact Or.inr ⟨by omega, hid⟩

end Position

namespace Keyset

variable {α β : Type} {place : α → Position}

/-! ## Strictly ordered lists -/

/-- Whether a list is strictly in the order of its places. -/
def InOrder (place : α → Position) (items : List α) : Prop :=
  items.Pairwise fun a b => (place a).Before (place b)

theorem InOrder.nodup {items : List α} (h : InOrder place items) : items.Nodup := by
  refine List.Pairwise.imp ?_ h
  rintro a _ hab rfl
  exact Position.not_before_self _ hab

/-- **A strictly ordered list is determined by its members.** -/
theorem eq_of_inOrder {xs ys : List α} (hx : InOrder place xs) (hy : InOrder place ys)
    (hmem : ∀ a, a ∈ xs ↔ a ∈ ys) : xs = ys := by
  have hperm : xs.Perm ys := (List.perm_ext_iff_of_nodup hx.nodup hy.nodup).2 hmem
  refine List.Perm.eq_of_pairwise (fun a b _ _ hab hba => ?_) hx hy hperm
  exact absurd hba hab.asymm

theorem InOrder.map {place' : β → Position} {f : α → β} (hf : ∀ a, place' (f a) = place a)
    {items : List α} (h : InOrder place items) : InOrder place' (items.map f) := by
  refine List.pairwise_map.2 (List.Pairwise.imp ?_ h)
  intro a b hab
  rw [hf a, hf b]
  exact hab

/-! ## What a query finds -/

theorem mem_ordered {cursor : Option Cursor} {rows : List α} {a : α} :
    a ∈ ordered place cursor rows ↔ a ∈ rows ∧ (place a).follows cursor = true := by
  unfold ordered
  rw [List.mem_mergeSort, List.mem_filter]

/-- Without a cursor a query sorts all the rows. -/
theorem ordered_none (rows : List α) :
    ordered place none rows = rows.mergeSort fun a b => (place a).notAfter (place b) := by
  have hall : rows.filter (fun row => (place row).follows none) = rows :=
    List.filter_eq_self.2 fun _ _ => rfl
  unfold ordered
  rw [hall]

/-- Without a cursor a query finds every row once. -/
theorem ordered_none_perm (rows : List α) : (ordered place none rows).Perm rows := by
  rw [ordered_none]
  exact List.mergeSort_perm _ _

/-- A query repeats no id that the rows do not repeat. -/
theorem nodup_ids_ordered {cursor : Option Cursor} {rows : List α}
    (h : (rows.map fun row => (place row).id).Nodup) :
    ((ordered place cursor rows).map fun row => (place row).id).Nodup := by
  have hrows : rows.Pairwise fun a b => (place a).id ≠ (place b).id := List.pairwise_map.1 h
  refine List.pairwise_map.2 ?_
  exact (hrows.filter _).perm (List.mergeSort_perm _ _).symm fun hab => hab.symm

/-- **What a query finds is strictly ordered** if no two rows have one id. -/
theorem inOrder_ordered {cursor : Option Cursor} {rows : List α}
    (h : (rows.map fun row => (place row).id).Nodup) : InOrder place (ordered place cursor rows) := by
  -- The sort gives the order up to equal places, the ids exclude those.
  have hsorted : (ordered place cursor rows).Pairwise fun a b =>
      (place a).notAfter (place b) = true := by
    refine List.pairwise_mergeSort ?_ ?_ _
    · intro a b c hab hbc
      exact Position.notAfter_trans hab hbc
    · intro a b
      rw [Bool.or_eq_true, Position.notAfter_iff, Position.notAfter_iff]
      by_cases hba : (place b).Before (place a)
      · exact Or.inr hba.asymm
      · exact Or.inl hba
  have hids : (ordered place cursor rows).Pairwise fun a b => (place a).id ≠ (place b).id :=
    List.pairwise_map.1 (nodup_ids_ordered h)
  refine List.Pairwise.imp ?_ (hsorted.and hids)
  rintro a b ⟨hle, hne⟩
  rcases Position.before_or_before hne with hab | hba
  · exact hab
  · exact absurd hba (Position.notAfter_iff.1 hle)

/-- A query on rows in another form finds the same rows in that form. -/
theorem map_ordered {place' : β → Position} {f : α → β} (hf : ∀ a, place' (f a) = place a)
    (cursor : Option Cursor) (rows : List α) :
    (ordered place cursor rows).map f = ordered place' cursor (rows.map f) := by
  have hfilter : (rows.map f).filter (fun row => (place' row).follows cursor) =
      (rows.filter fun row => (place row).follows cursor).map f := by
    rw [List.filter_map]
    congr 1
    refine List.filter_congr fun a _ => ?_
    show (place' (f a)).follows cursor = _
    rw [hf a]
  unfold ordered
  rw [hfilter]
  refine List.map_mergeSort fun a _ b _ => ?_
  rw [hf a, hf b]

/-! ## The collection in memory -/

/-- **On whole milliseconds both orders are one.** -/
theorem listing_eq_ordered {cursor : Option Cursor} {items : List α}
    (h : ∀ a ∈ items, (place a).IsExact) :
    listing place cursor items = ordered place cursor items := by
  have hfilter : items.filter (fun item => (place item).isAfter cursor) =
      items.filter fun item => (place item).follows cursor :=
    List.filter_congr fun a _ => Position.isAfter_eq_follows cursor (place a)
  unfold listing ordered
  rw [hfilter]
  -- Two sorts of one list agree if their comparisons agree on its members.
  have hsort := List.map_mergeSort (f := id)
    (l := items.filter fun item => (place item).follows cursor)
    (r := fun a b => Position.keyLe (place a).sortKey (place b).sortKey)
    (s := fun a b => (place a).notAfter (place b)) fun a ha b hb =>
      Position.keyLe_sortKey (h a (List.mem_filter.1 ha).1) (h b (List.mem_filter.1 hb).1)
  rw [List.map_id, List.map_id] at hsort
  exact hsort

end Keyset

end WebhookRegistry
