/-
  The maximum page size, read from its property.

  The property may be a number or a text that is a numeral. Whatever is not a positive integer gives the
  default with one warning. Two kinds of values are refused instead: an override that is infinite, and a
  settings value that is nested too deep to be turned into text.
-/
import WebhookRegistry.Event

namespace WebhookRegistry

/-- A maximum page size with the warning that led to it, if any. -/
structure MaxPageSize where
  value : Int
  events : List Event
  deriving DecidableEq, Repr

namespace MaxPageSize

/-- A refused property: an infinite number, or a value that is nested too deep. -/
inductive Refusal where
  | infinite
  | tooDeep
  deriving DecidableEq, Repr

/-- The integer that a value denotes: a number without its fraction, a truth value as one or zero, a
    numeral. The inner result is `none` when there is none. -/
def integerOf? : Json → Except Refusal (Option Int)
  | .int n => .ok (some n)
  | .bool b => .ok (some (if b then 1 else 0))
  | .float (.infinite _) => .error .infinite
  | .float x => .ok x.truncated?
  | .str s => .ok (Text.settingValue? s)
  | _ => .ok none

/-- The default, with a warning. -/
def fallback (fault : PageSizeFault) : MaxPageSize :=
  ⟨defaultMaxPageSize, [.maxPageSizeInvalid fault]⟩

/-- The maximum page size that properties give, with room for so many values inside a settings value. -/
def load (room : Nat) (properties : Properties) : Except Refusal MaxPageSize :=
  match properties.value room maxPageSizeProperty with
  | .error (.noText _ .tooDeep) => .error .tooDeep
  | .error fault => .ok (fallback (.noValue fault))
  | .ok v =>
    match integerOf? v with
    | .error refusal => .error refusal
    | .ok none => .ok (fallback .notInteger)
    | .ok (some n) => .ok (if 0 < n then ⟨n, []⟩ else fallback .notPositive)

@[simp] theorem value_fallback (fault : PageSizeFault) :
    (fallback fault).value = defaultMaxPageSize := rfl

/-- **A maximum page size is positive.** -/
theorem value_pos {room : Nat} {properties : Properties} {size : MaxPageSize}
    (h : load room properties = .ok size) : 0 < size.value := by
  unfold load at h
  split at h
  · cases h
  · cases h
    simp [defaultMaxPageSize]
  · split at h
    · cases h
    · cases h
      simp [defaultMaxPageSize]
    · rename_i n _
      cases h
      by_cases hn : 0 < n <;> simp [hn, defaultMaxPageSize]

end MaxPageSize

end WebhookRegistry
