/-
  Creation times are carried by page tokens as they are.

  A creation time is what a clock shows, without what is finer than a millisecond; a token carries whole
  milliseconds since the epoch. So a time is truncated in two ways, and they have to be one:

  1. **The last field of a calendar time** loses its remainder (`CalendarTime.truncated`). This gives the
     latest whole millisecond that is not after the clock, on either side of the epoch
     (`calendar_floorMillis`).

  2. **The distance from the epoch**, which is negative before 1970, is divided and rounded down
     (`millis_eq_distance`).

  Since the first leaves nothing for the second to round off, the milliseconds of a creation time name
  that very time (`CreatedAt`). Neither way ever turns an order round, and on whole milliseconds the
  second keeps every difference (`CountsMillis`).
-/
import WebhookRegistry.Proofs.Paging.TokenRoundTrip
import WebhookRegistry.Proofs.Paging.TokenVerdicts
import WebhookRegistry.Proofs.Time.Calendar

namespace WebhookRegistry

namespace Instant

/-! ## Both ways to truncate -/

/-- **Truncating a calendar time** gives that of the whole millisecond. -/
theorem calendar_floorMillis (t : Instant) : t.floorMillis.calendar = t.calendar.truncated := by
  have hfloor : t.floorMillis.micros = t.micros - t.micros % 1000 := rfl
  have hdays : t.floorMillis.micros / 86400000000 = t.micros / 86400000000 := by omega
  have hrest : (t.floorMillis.micros % 86400000000).toNat =
      (t.micros % 86400000000).toNat - (t.micros % 86400000000).toNat % 1000 := by omega
  unfold calendar CalendarTime.truncated
  dsimp only
  rw [hdays, hrest]
  congr 1 <;> omega

/-- **The milliseconds of an instant** are those of its distance from the epoch in the calendar. -/
theorem millis_eq_distance (t : Instant) :
    t.millis = (t.calendar.micros - epoch.calendar.micros) / 1000 := by
  rw [micros_calendar, micros_calendar, micros_epoch, Int.sub_zero]
  rfl

theorem floorMillis_mono {s t : Instant} (h : s ≤ t) : s.floorMillis ≤ t.floorMillis := by
  rw [le_def] at h ⊢
  rw [micros_floorMillis, micros_floorMillis]
  unfold millis
  omega

theorem millis_mono {s t : Instant} (h : s ≤ t) : s.millis ≤ t.millis := by
  rw [le_def] at h
  unfold millis
  omega

/-- An instant of whole milliseconds has nothing else. -/
theorem micros_of_isWholeMillis {t : Instant} (h : t.IsWholeMillis) : t.micros = 1000 * t.millis := by
  unfold IsWholeMillis at h
  unfold millis
  omega

end Instant

/-! ## Creation times -/

/-- The creation time that is taken from a clock. -/
def creationTime (clock : Instant) : LogicalTime := .of (some clock.floorMillis)

/-- Whether the creation time taken from a clock survives a token. In the calendar it is what the clock
    shows without what is finer than a millisecond, that is, the latest whole millisecond not after the
    clock; its milliseconds name it, so a token that is made of it is read back to it; and a later clock
    never gives an earlier one. -/
structure CreatedAt (clock : Instant) : Prop where
  shown : clock.floorMillis.calendar = clock.calendar.truncated
  whole : clock.floorMillis.IsWholeMillis
  le_clock : clock.floorMillis ≤ clock
  latest : ∀ t : Instant, t.IsWholeMillis → t ≤ clock → t ≤ clock.floorMillis
  named : LogicalTime.ofMillis? (creationTime clock).millis = some (creationTime clock)
  carried : ∀ id, PageToken.decode (some (PageToken.encode (creationTime clock) id)) =
    .ok (some ⟨creationTime clock, id⟩)
  mono : ∀ later, clock ≤ later → clock.floorMillis ≤ later.floorMillis

/-- Whether the milliseconds of a time count from the epoch: they are its distance from there, rounded
    down; those of a later time are not fewer; and between whole milliseconds it makes no difference
    whether the numbers are compared or the times. -/
structure CountsMillis (time : LogicalTime) : Prop where
  distance : time.millis =
    (time.toInstant.calendar.micros - Instant.epoch.calendar.micros) / 1000
  mono : ∀ later, time ≤ later → time.millis ≤ later.millis
  compares : time.toInstant.IsWholeMillis → ∀ other : LogicalTime, other.toInstant.IsWholeMillis →
    (time.millis < other.millis ↔ time < other) ∧ (time.millis ≤ other.millis ↔ time ≤ other) ∧
      (time.millis = other.millis ↔ (time == other) = true)

/-- Whether a number of milliseconds names a time exactly if there is one in the years 1 to 9999, which
    then has these milliseconds. -/
structure NamesTime (m : Int) : Prop where
  defined : (∃ time, LogicalTime.ofMillis? m = some time) ↔ InCalendar m
  back : ∀ time, LogicalTime.ofMillis? m = some time → time.millis = m

theorem toInstant_creationTime (clock : Instant) :
    (creationTime clock).toInstant = clock.floorMillis :=
  LogicalTime.toInstant_of _

/-- A creation time has nothing left to round off. -/
theorem floorMillis_creationTime (clock : Instant) :
    (creationTime clock).toInstant.floorMillis = clock.floorMillis := by
  rw [toInstant_creationTime, Instant.floorMillis_of_isWholeMillis clock.isWholeMillis_floorMillis]

/-- **The milliseconds of a creation time name it.** -/
theorem ofMillis?_creationTime (clock : Instant) :
    LogicalTime.ofMillis? (creationTime clock).millis = some (creationTime clock) := by
  show (Instant.ofMillis? (creationTime clock).toInstant.millis).map _ = _
  rw [Instant.ofMillis?_millis, floorMillis_creationTime]
  rfl

theorem createdAt (clock : Instant) : CreatedAt clock where
  shown := clock.calendar_floorMillis
  whole := clock.isWholeMillis_floorMillis
  le_clock := clock.floorMillis_le
  latest _ hwhole hle := Instant.le_floorMillis hwhole hle
  named := ofMillis?_creationTime clock
  carried id := by
    rw [PageToken.decode_encode, floorMillis_creationTime]
    rfl
  mono _ hle := Instant.floorMillis_mono hle

theorem countsMillis (time : LogicalTime) : CountsMillis time where
  distance := time.toInstant.millis_eq_distance
  mono _ hle := Instant.millis_mono hle
  compares hwhole other hother := by
    -- A thousand times as much is in the same order.
    have htime : time.toInstant.micros = 1000 * time.millis := Instant.micros_of_isWholeMillis hwhole
    have hcompared : other.toInstant.micros = 1000 * other.millis :=
      Instant.micros_of_isWholeMillis hother
    refine ⟨?_, ?_, ?_⟩
    · rw [LogicalTime.lt_iff]
      omega
    · show _ ↔ time.toInstant ≤ other.toInstant
      rw [Instant.le_def]
      omega
    · rw [LogicalTime.beq_iff, Instant.ext_iff]
      omega

theorem namesTime (m : Int) : NamesTime m where
  defined := LogicalTime.exists_ofMillis?_iff
  back _ htime := LogicalTime.millis_of_ofMillis? htime

/-- **Creation times survive page tokens exactly**, whatever the clock shows in the years 1 to 9999. -/
theorem creation_times_survive :
    (∀ shown : CalendarTime, shown.Valid ↔ ∃ clock : Instant, clock.calendar = shown) ∧
      (∀ clock, CreatedAt clock) ∧ (∀ time, CountsMillis time) ∧ ∀ m, NamesTime m :=
  ⟨fun _ => CalendarTime.valid_iff_exists_calendar, createdAt, countsMillis, namesTime⟩

/-- A microsecond more than one and a half seconds before the epoch, both ways to truncate go towards the
    past. -/
theorem creation_time_survives_before_epoch :
    let clock : Instant := ⟨-1500001, by decide, by decide⟩
    clock.calendar = ⟨⟨1969, 12, 31⟩, 23, 59, 58, 499999⟩ ∧
      clock.floorMillis.calendar = ⟨⟨1969, 12, 31⟩, 23, 59, 58, 499000⟩ ∧
      (creationTime clock).millis = -1501 ∧
      LogicalTime.ofMillis? (-1501) = some (creationTime clock) := by
  intro clock
  have hsurvives := creation_times_survive.2.1 clock
  refine ⟨by decide, hsurvives.shown.trans (by decide), by decide, hsurvives.named⟩

end WebhookRegistry
