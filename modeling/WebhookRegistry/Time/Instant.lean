/-
  Instants of the years 1 to 9999, counted in microseconds from 1970-01-01 00:00:00 UTC.

  The bounds are part of the type, so an instant always has a calendar text. `millis` rounds down to
  whole milliseconds, also before 1970, and `floorMillis` is the same rounding as an instant: the latest
  whole millisecond not after the given instant.
-/
namespace WebhookRegistry

/-- The first microsecond of year 1. -/
def firstMicro : Int := -62135596800000000

/-- The last microsecond of year 9999. -/
def lastMicro : Int := 253402300799999999

/-- An instant with its microseconds since the epoch. -/
@[ext] structure Instant where
  micros : Int
  first_le : firstMicro ≤ micros
  le_last : micros ≤ lastMicro
  deriving DecidableEq, Repr

namespace Instant

/-- 1970-01-01 00:00:00 UTC. -/
def epoch : Instant := ⟨0, by decide, by decide⟩

instance : Inhabited Instant := ⟨epoch⟩

/-- The instant of a number of microseconds, if it lies in the years 1 to 9999. -/
def ofMicros? (n : Int) : Option Instant :=
  if h : firstMicro ≤ n ∧ n ≤ lastMicro then some ⟨n, h.1, h.2⟩ else none

/-- Whole milliseconds since the epoch, rounded down. -/
def millis (t : Instant) : Int := t.micros / 1000

/-- The instant of a number of milliseconds, if it lies in the years 1 to 9999. -/
def ofMillis? (m : Int) : Option Instant := ofMicros? (1000 * m)

/-- The latest whole millisecond not after an instant. -/
def floorMillis (t : Instant) : Instant where
  micros := t.micros - t.micros % 1000
  first_le := by
    have h := t.first_le
    unfold firstMicro at h ⊢
    omega
  le_last := by
    have h := t.le_last
    unfold lastMicro at h ⊢
    omega

/-- Whether an instant is a whole number of milliseconds. -/
def IsWholeMillis (t : Instant) : Prop := t.micros % 1000 = 0

instance (t : Instant) : Decidable t.IsWholeMillis := inferInstanceAs (Decidable (_ = _))

instance : LT Instant := ⟨fun a b => a.micros < b.micros⟩
instance : LE Instant := ⟨fun a b => a.micros ≤ b.micros⟩
instance (a b : Instant) : Decidable (a < b) := inferInstanceAs (Decidable (a.micros < b.micros))
instance (a b : Instant) : Decidable (a ≤ b) := inferInstanceAs (Decidable (a.micros ≤ b.micros))

/-! ## Counting and rounding -/

@[simp] theorem micros_epoch : epoch.micros = 0 := rfl

theorem lt_def {a b : Instant} : a < b ↔ a.micros < b.micros := Iff.rfl

theorem le_def {a b : Instant} : a ≤ b ↔ a.micros ≤ b.micros := Iff.rfl

theorem ofMicros?_eq_some_iff {n : Int} {t : Instant} : ofMicros? n = some t ↔ t.micros = n := by
  unfold ofMicros?
  constructor
  · intro h
    split at h
    · simp only [Option.some.injEq] at h
      rw [← h]
    · simp at h
  · rintro rfl
    rw [dif_pos ⟨t.first_le, t.le_last⟩]

/-- **Rounding to a whole millisecond** and counting milliseconds agree. -/
theorem micros_floorMillis (t : Instant) : t.floorMillis.micros = 1000 * t.millis := by
  show t.micros - t.micros % 1000 = 1000 * (t.micros / 1000)
  omega

theorem floorMillis_le (t : Instant) : t.floorMillis ≤ t := by
  show t.micros - t.micros % 1000 ≤ t.micros
  omega

theorem isWholeMillis_floorMillis (t : Instant) : t.floorMillis.IsWholeMillis := by
  show (t.micros - t.micros % 1000) % 1000 = 0
  omega

/-- **The milliseconds of an instant name its whole millisecond.** -/
theorem ofMillis?_millis (t : Instant) : ofMillis? t.millis = some t.floorMillis :=
  ofMicros?_eq_some_iff.2 t.micros_floorMillis

/-- A whole millisecond is its own rounding. -/
theorem floorMillis_of_isWholeMillis {t : Instant} (h : t.IsWholeMillis) : t.floorMillis = t := by
  apply Instant.ext
  show t.micros - t.micros % 1000 = t.micros
  unfold IsWholeMillis at h
  omega

/-- **Rounding down gives the latest whole millisecond** not after an instant. -/
theorem le_floorMillis {s t : Instant} (hs : s.IsWholeMillis) (h : s ≤ t) : s ≤ t.floorMillis := by
  unfold IsWholeMillis at hs
  rw [le_def] at h ⊢
  rw [micros_floorMillis]
  unfold millis
  omega

/-- The milliseconds of an instant lie between those of the first and of the last one. -/
theorem millis_bounds (t : Instant) : -62135596800000 ≤ t.millis ∧ t.millis ≤ 253402300799999 := by
  have h0 := t.first_le
  have h1 := t.le_last
  unfold firstMicro at h0
  unfold lastMicro at h1
  unfold millis
  omega

end Instant

end WebhookRegistry
