/-
  Creation times as they are compared.

  A record may have no creation time. A logical time is either a concrete instant or unset, and unset
  stands at the epoch in every comparison: so an unset time is the same as the epoch, comes before every
  later instant, and two logical times are the same exactly when their instants in queries are equal.
-/
import WebhookRegistry.Time.Instant

namespace WebhookRegistry

/-- A creation time: a concrete instant, or unset. -/
structure LogicalTime where
  instant : Option Instant
  deriving Repr, Inhabited

namespace LogicalTime

/-- The time of a record that has none. -/
def unset : LogicalTime := ⟨none⟩

/-- The logical time of an optional instant; the epoch itself counts as unset. -/
def of (created : Option Instant) : LogicalTime :=
  match created with
  | none => unset
  | some t => if t = .epoch then unset else ⟨some t⟩

/-- The logical time of a number of milliseconds, if it lies in the years 1 to 9999. -/
def ofMillis? (m : Int) : Option LogicalTime :=
  (Instant.ofMillis? m).map fun t => of (some t)

/-- Whether the time is unset. -/
def isUnset (t : LogicalTime) : Bool := t.instant.isNone

/-- The instant that stands for the time in a query. -/
def toInstant (t : LogicalTime) : Instant := t.instant.getD .epoch

/-- Whole milliseconds since the epoch, rounded down. -/
def millis (t : LogicalTime) : Int := t.toInstant.millis

/-- Equality of logical times is equality of their instants. -/
instance : BEq LogicalTime := ⟨fun a b => a.toInstant == b.toInstant⟩

instance : LT LogicalTime := ⟨fun a b => a.toInstant < b.toInstant⟩
instance : LE LogicalTime := ⟨fun a b => a.toInstant ≤ b.toInstant⟩
instance (a b : LogicalTime) : Decidable (a < b) :=
  inferInstanceAs (Decidable (a.toInstant < b.toInstant))
instance (a b : LogicalTime) : Decidable (a ≤ b) :=
  inferInstanceAs (Decidable (a.toInstant ≤ b.toInstant))

/-- The hash of a logical time is that of its instant, as equality demands. -/
instance : Hashable LogicalTime := ⟨fun t => hash t.toInstant.micros⟩

/-! ## Comparing -/

@[simp] theorem toInstant_unset : unset.toInstant = .epoch := rfl

/-- **Wrapping an optional instant keeps it**, with the epoch for none. -/
theorem toInstant_of (created : Option Instant) : (of created).toInstant = created.getD .epoch := by
  cases created with
  | none => rfl
  | some t =>
    unfold of
    by_cases h : t = .epoch
    · simp [h]
    · simp [h, toInstant]

/-- **The times that milliseconds name** are the wrapped whole milliseconds. -/
theorem ofMillis?_eq_some_iff {m : Int} {time : LogicalTime} :
    ofMillis? m = some time ↔ ∃ t : Instant, t.micros = 1000 * m ∧ of (some t) = time := by
  unfold ofMillis? Instant.ofMillis?
  rw [Option.map_eq_some_iff]
  constructor
  · rintro ⟨t, ht, htime⟩
    exact ⟨t, Instant.ofMicros?_eq_some_iff.1 ht, htime⟩
  · rintro ⟨t, ht, htime⟩
    exact ⟨t, Instant.ofMicros?_eq_some_iff.2 ht, htime⟩

/-- A time that milliseconds name has those milliseconds. -/
theorem millis_of_ofMillis? {m : Int} {time : LogicalTime} (h : ofMillis? m = some time) :
    time.millis = m := by
  obtain ⟨t, ht, rfl⟩ := ofMillis?_eq_some_iff.1 h
  unfold millis Instant.millis
  rw [toInstant_of]
  show t.micros / 1000 = m
  omega

/-- Rounding does not change a time that milliseconds name. -/
theorem of_floorMillis_of_ofMillis? {m : Int} {time : LogicalTime} (h : ofMillis? m = some time) :
    of (some time.toInstant.floorMillis) = time := by
  obtain ⟨t, ht, rfl⟩ := ofMillis?_eq_some_iff.1 h
  have hwhole : t.IsWholeMillis := by
    unfold Instant.IsWholeMillis
    omega
  rw [toInstant_of]
  show of (some t.floorMillis) = of (some t)
  rw [Instant.floorMillis_of_isWholeMillis hwhole]

theorem beq_iff {a b : LogicalTime} : (a == b) = true ↔ a.toInstant = b.toInstant := by
  show (a.toInstant == b.toInstant) = true ↔ _
  simp

theorem lt_iff {a b : LogicalTime} : a < b ↔ a.toInstant.micros < b.toInstant.micros := Iff.rfl

/-- Equal times hash alike. -/
theorem hash_eq {a b : LogicalTime} (h : (a == b) = true) : hash a = hash b := by
  show hash a.toInstant.micros = hash b.toInstant.micros
  rw [beq_iff.1 h]

end LogicalTime

end WebhookRegistry
