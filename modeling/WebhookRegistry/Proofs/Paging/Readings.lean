/-
  One order, written three times.

  The order of a listing is written as the comparison of a query, as a sort key and as the comparison
  with a cursor. On rows with different ids, whose times are whole milliseconds or missing, the three say
  the same:

  1. **Sort keys** (`before_iff_sortKey_lt`): one place comes before another exactly when its sort key is
     smaller, the keys compared as pairs.

  2. **Cursors** (`isAfter_iff_sortKey_lt`): what comes after the cursor of a row are the rows with
     greater sort keys.

  3. **Lists** (`ordered_eq_filter_mergeSort`): a query keeps first and sorts then, but sorting first and
     keeping then gives the same rows. Both lists are strictly ordered and have the same members, and
     that determines a list.

  What is left to tell a query from a list is its limit, which the database takes only up to `maxLimit`.
-/
import Mathlib.Data.List.Nodup
import Mathlib.Data.Prod.Lex
import Mathlib.Order.Defs.Unbundled
import WebhookRegistry.Proofs.Paging.Pages

namespace WebhookRegistry

namespace Position

/-! ## Sort keys -/

/-- Sort keys are compared as pairs. -/
theorem keyLe_iff {a b : Int × String} : keyLe a b = true ↔ ¬ toLex b < toLex a := by
  have hlt : toLex b < toLex a ↔ b.1 < a.1 ∨ (b.1 = a.1 ∧ b.2 < a.2) := Prod.Lex.toLex_lt_toLex
  rw [hlt, ← String.not_le]
  unfold keyLe
  simp only [Bool.or_eq_true, Bool.and_eq_true, decide_eq_true_eq]
  constructor
  · rintro (h | ⟨h, hid⟩) (h' | ⟨h', hid'⟩)
    · omega
    · omega
    · omega
    · exact hid' hid
  · intro h
    rcases Int.lt_trichotomy a.1 b.1 with hlt | heq | hgt
    · exact Or.inl hlt
    · refine Or.inr ⟨heq, ?_⟩
      rcases String.le_total a.2 b.2 with hle | hge
      · exact hle
      · exact Decidable.byContradiction fun hnot => h (Or.inr ⟨heq.symm, hnot⟩)
    · exact absurd (Or.inl hgt) h

/-- **On whole milliseconds the order is that of the sort keys.** -/
theorem before_iff_sortKey_lt {p q : Position} (hp : p.IsExact) (hq : q.IsExact) :
    p.Before q ↔ toLex p.sortKey < toLex q.sortKey := by
  have hkeys : keyLe q.sortKey p.sortKey = true ↔ q.notAfter p = true := by
    rw [keyLe_sortKey hq hp]
  rw [keyLe_iff, notAfter_iff] at hkeys
  exact (not_iff_not.1 hkeys).symm

/-- **After the cursor of a row come the rows with greater sort keys.** -/
theorem isAfter_iff_sortKey_lt {p q : Position} (hp : p.IsExact) (hq : q.IsExact) {cursor : Cursor}
    (h : cursor.At q) : p.isAfter (some cursor) = true ↔ toLex q.sortKey < toLex p.sortKey := by
  rw [isAfter_eq_follows, follows_iff_of_at h]
  exact before_iff_sortKey_lt hq hp

end Position

namespace Keyset

variable {α : Type} {place : α → Position} {rows : List α}

/-! ## Rows with different ids -/

/-- **The order is strict and total on rows with different ids.** -/
theorem isStrictTotalOrder_before (hids : (rows.map fun row => (place row).id).Nodup) :
    IsStrictTotalOrder {row // row ∈ rows} fun a b => (place a.1).Before (place b.1) where
  irrefl a := Position.not_before_self (place a.1)
  trans _ _ _ hab hbc := hab.trans hbc
  trichotomous a b hab hba := by
    have hid : (place a.1).id = (place b.1).id := by
      refine Decidable.byContradiction fun hne => ?_
      rcases Position.before_or_before hne with h | h
      · exact hab h
      · exact hba h
    exact Subtype.ext (List.inj_on_of_nodup_map hids a.2 b.2 hid)

/-- What a query finds after a cursor is kept from what it finds without one. -/
theorem ordered_eq_filter (hids : (rows.map fun row => (place row).id).Nodup)
    (cursor : Option Cursor) :
    ordered place cursor rows =
      (ordered place none rows).filter fun row => (place row).isAfter cursor := by
  have hkept : InOrder place ((ordered place none rows).filter fun row => (place row).isAfter cursor) :=
    (inOrder_ordered hids).filter _
  refine eq_of_inOrder (inOrder_ordered hids) hkept fun a => ?_
  rw [mem_ordered, List.mem_filter, mem_ordered, Position.isAfter_eq_follows]
  exact ⟨fun h => ⟨⟨h.1, rfl⟩, h.2⟩, fun h => ⟨h.1.1, h.2⟩⟩

/-- Without a cursor all items are sorted by their keys. -/
theorem listing_none (items : List α) :
    listing place none items =
      items.mergeSort fun a b => Position.keyLe (place a).sortKey (place b).sortKey := by
  have hall : items.filter (fun item => (place item).isAfter none) = items :=
    List.filter_eq_self.2 fun _ _ => rfl
  unfold listing
  rw [hall]

/-- **A query finds the rows sorted by their keys, as far as they come after the cursor.** -/
theorem ordered_eq_filter_mergeSort (hids : (rows.map fun row => (place row).id).Nodup)
    (hexact : ∀ row ∈ rows, (place row).IsExact) (cursor : Option Cursor) :
    ordered place cursor rows =
      (rows.mergeSort fun a b => Position.keyLe (place a).sortKey (place b).sortKey).filter
        fun row => (place row).isAfter cursor := by
  rw [ordered_eq_filter hids, ← listing_eq_ordered hexact, listing_none]

/-- A limit beyond what the database takes is refused. -/
theorem exists_select_eq_error (place : α → Position) (cursor : Option Cursor) (rows : List α)
    {limit : Int} (h : maxLimit < limit) :
    ∃ fault, select place cursor limit rows = .error fault := by
  obtain ⟨fault, hfault⟩ := exists_limitFault h
  refine ⟨fault, ?_⟩
  unfold select
  rw [hfault]

/-! ## All readings -/

/-- Whether all readings of the order agree on rows: it is strict and total, the sort keys and the
    cursors of rows compare as it does, and a query finds the first rows of those that come after its
    cursor in the order of their sort keys, unless its limit is refused. -/
structure OneOrder (place : α → Position) (rows : List α) : Prop where
  strictTotal : IsStrictTotalOrder {row // row ∈ rows} fun a b => (place a.1).Before (place b.1)
  keys : ∀ a ∈ rows, ∀ b ∈ rows,
    ((place a).Before (place b) ↔ toLex (place a).sortKey < toLex (place b).sortKey)
  cursors : ∀ a ∈ rows, ∀ b ∈ rows, ∀ cursor : Cursor, cursor.At (place b) →
    ((place a).isAfter (some cursor) = true ↔ toLex (place b).sortKey < toLex (place a).sortKey)
  found : ∀ cursor limit, 0 ≤ limit → limit ≤ maxLimit →
    select place cursor limit rows =
      .ok (((rows.mergeSort fun a b => Position.keyLe (place a).sortKey (place b).sortKey).filter
        fun row => (place row).isAfter cursor).take limit.toNat)
  refused : ∀ cursor limit, maxLimit < limit → ∃ fault, select place cursor limit rows = .error fault

/-- **All readings of the order agree** on rows with different ids and times that are whole milliseconds
    or missing. -/
theorem readings_agree {α : Type} (place : α → Position) (rows : List α)
    (hids : (rows.map fun row => (place row).id).Nodup)
    (hexact : ∀ row ∈ rows, (place row).IsExact) : OneOrder place rows where
  strictTotal := isStrictTotalOrder_before hids
  keys a ha b hb := Position.before_iff_sortKey_lt (hexact a ha) (hexact b hb)
  cursors a ha b hb _ hat := Position.isAfter_iff_sortKey_lt (hexact a ha) (hexact b hb) hat
  found cursor limit h0 h1 := by
    rw [select_eq h0 h1, ordered_eq_filter_mergeSort hids hexact]
  refused cursor limit h := exists_select_eq_error place cursor rows h

/-- A missing time that ties with the epoch, a time before it, and ids of which one starts another. -/
theorem readings_agree_of_ties :
    let early : Instant := ⟨-1000, by decide, by decide⟩
    let rows : List Position :=
      [⟨none, "a:"⟩, ⟨some early, "0"⟩, ⟨some .epoch, "a"⟩, ⟨some early, ""⟩]
    (rows.map fun row => row.id).Nodup ∧ (∀ row ∈ rows, row.IsExact) ∧ OneOrder id rows := by
  intro early rows
  have hids : (rows.map fun row => row.id).Nodup := by decide
  have hexact : ∀ row ∈ rows, row.IsExact := by decide
  exact ⟨hids, hexact, readings_agree id rows hids hexact⟩

/-- **No rows come of a limit that the database does not take**, not even those that there are. -/
theorem no_rows_beyond_maxLimit :
    let rows : List Position := [⟨none, "a"⟩]
    let limit : Int := 0x8000000000000000
    0 ≤ limit ∧ (rows.map fun row => row.id).Nodup ∧ (∀ row ∈ rows, row.IsExact) ∧
      select id none limit rows ≠
        .ok (((rows.mergeSort fun a b => Position.keyLe a.sortKey b.sortKey).filter
          fun row => row.isAfter none).take limit.toNat) := by
  intro rows limit
  refine ⟨by decide, by decide, by decide, fun hfound => ?_⟩
  obtain ⟨fault, hrefused⟩ :=
    exists_select_eq_error id none rows (show maxLimit < limit by decide)
  rw [hrefused] at hfound
  cases hfound

end Keyset

end WebhookRegistry
