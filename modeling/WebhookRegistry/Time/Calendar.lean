/-
  Dates and times of day in the Gregorian calendar, with their text.

  A day is counted from 1970-01-01. To find its date the count is moved to start at a first of March,
  so that the leap day is the last day of a year, and split into eras of 400 years, which all have the
  same number of days.
-/
import WebhookRegistry.Time.Instant

namespace WebhookRegistry

/-- A date of the Gregorian calendar. -/
structure CivilDate where
  year : Int
  month : Nat
  day : Nat
  deriving DecidableEq, Repr

namespace CivilDate

/-- The date of a day counted from 1970-01-01. -/
def ofDays (days : Int) : CivilDate :=
  let shifted := days + 719468
  let era := shifted / 146097
  let dayOfEra := (shifted % 146097).toNat
  let yearOfEra := (dayOfEra - dayOfEra / 1460 + dayOfEra / 36524 - dayOfEra / 146096) / 365
  let dayOfYear := dayOfEra - (365 * yearOfEra + yearOfEra / 4 - yearOfEra / 100)
  let marchMonth := (5 * dayOfYear + 2) / 153
  let day := dayOfYear - (153 * marchMonth + 2) / 5 + 1
  let month := if marchMonth < 10 then marchMonth + 3 else marchMonth - 9
  let year := (yearOfEra : Int) + era * 400 + (if month ≤ 2 then 1 else 0)
  ⟨year, month, day⟩

example : ofDays 0 = ⟨1970, 1, 1⟩ := by decide
example : ofDays 11016 = ⟨2000, 2, 29⟩ := by decide
example : ofDays (-719162) = ⟨1, 1, 1⟩ := by decide
example : ofDays 2932896 = ⟨9999, 12, 31⟩ := by decide

end CivilDate

/-- A date with a time of day, to the microsecond. -/
structure CalendarTime where
  date : CivilDate
  hour : Nat
  minute : Nat
  second : Nat
  microsecond : Nat
  deriving DecidableEq, Repr

/-- The time without what is finer than a millisecond. -/
def CalendarTime.truncated (time : CalendarTime) : CalendarTime :=
  { time with microsecond := time.microsecond - time.microsecond % 1000 }

namespace Instant

/-- The date and the time of day of an instant, in UTC. -/
def calendar (t : Instant) : CalendarTime :=
  let micros := (t.micros % 86400000000).toNat
  let seconds := micros / 1000000
  ⟨CivilDate.ofDays (t.micros / 86400000000), seconds / 3600, seconds / 60 % 60, seconds % 60,
    micros % 1000000⟩

/-- A number with zeros in front up to a width. -/
def padded (width n : Nat) : String :=
  let digits := Nat.toDigits 10 n
  String.ofList (List.replicate (width - digits.length) '0' ++ digits)

/-- The calendar text of an instant: date, separator, time of day, a fraction of six digits unless it
    is zero, and the offset of UTC. -/
def text (separator : String) (t : Instant) : String :=
  let time := t.calendar
  padded 4 time.date.year.toNat ++ "-" ++ padded 2 time.date.month ++ "-" ++
    padded 2 time.date.day ++ separator ++ padded 2 time.hour ++ ":" ++ padded 2 time.minute ++ ":" ++
    padded 2 time.second ++
    (if time.microsecond = 0 then "" else "." ++ padded 6 time.microsecond) ++ "+00:00"

/-- The text with the letter T between date and time. -/
def iso (t : Instant) : String := t.text "T"

/-- The text with a blank between date and time. -/
def spaced (t : Instant) : String := t.text " "

end Instant

end WebhookRegistry
