/-
  The maximum page size is always usable and read faithfully.

  1. **Which value counts** (`Properties.value_eq_ok_iff`): the override if there is one, whatever it is
     and whatever the settings hold; else the text of the value in the settings. Only a value that is
     nested too deep is no use at all (`TooDeep`).

  2. **What it says** (`integerOf?_eq_ok_iff`): a number, a truth value, a number without its fraction or
     a numeral says a whole number (`Denotes`); only an infinite number cannot be asked.

  3. **What comes of it** (`load_of_gives`, `load_of_not_gives`): a positive number is taken as it is and
     without an event; everything else gives the default and one warning.

  So an integer that stands in the settings, as a number or in its decimal text, is taken if it is
  positive and has no more digits than are read (`load_of_holds`).
-/
import WebhookRegistry.Proofs.Json.Display
import WebhookRegistry.Proofs.Text.SettingGrammar
import WebhookRegistry.Settings.Environment
import WebhookRegistry.Settings.MaxPageSize

namespace WebhookRegistry

/-! ## Numbers without their fraction -/

namespace Binary64

/-- Whether a whole number is what is left of a finite number without its fraction: its magnitude is the
    largest one that is not above that of the number. -/
def IsTruncated : Binary64 → Int → Prop
  | .finite negative mantissa exponent, n =>
    ∃ m : Nat, m * (ratio mantissa exponent).2 ≤ (ratio mantissa exponent).1 ∧
      (ratio mantissa exponent).1 < (m + 1) * (ratio mantissa exponent).2 ∧ n = Text.signed negative m
  | _, _ => False

theorem ratio_snd_pos (mantissa : Nat) (exponent : Int) : 0 < (ratio mantissa exponent).2 :=
  Nat.pow_pos (by decide)

/-- The magnitude without the fraction is the quotient of the ratio. -/
theorem truncated?_finite (negative : Bool) (mantissa : Nat) (exponent : Int) :
    truncated? (.finite negative mantissa exponent) =
      some (Text.signed negative ((ratio mantissa exponent).1 / (ratio mantissa exponent).2)) := by
  have hmagnitude : (if 0 ≤ exponent then mantissa * Nat.pow 2 exponent.natAbs
      else mantissa / Nat.pow 2 exponent.natAbs) =
        (ratio mantissa exponent).1 / (ratio mantissa exponent).2 := by
    unfold ratio
    by_cases hexp : 0 ≤ exponent
    · have hden : (-exponent).toNat = 0 := by omega
      have hnum : exponent.toNat = exponent.natAbs := by omega
      rw [if_pos hexp, hden, hnum]
      exact (Nat.div_one _).symm
    · have hden : (-exponent).toNat = exponent.natAbs := by omega
      have hnum : exponent.toNat = 0 := by omega
      rw [if_neg hexp, hden, hnum]
      exact congrArg (· / _) (Nat.mul_one _).symm
  unfold truncated?
  dsimp only
  rw [hmagnitude]
  rfl

theorem truncated?_eq_some_iff {x : Binary64} {n : Int} : x.truncated? = some n ↔ x.IsTruncated n := by
  cases x with
  | nan => exact iff_of_false nofun id
  | infinite negative => exact iff_of_false nofun id
  | finite negative mantissa exponent =>
    have hpos := ratio_snd_pos mantissa exponent
    rw [truncated?_finite]
    constructor
    · intro h
      refine ⟨_, Nat.div_mul_le_self _ _, ?_, (Option.some.inj h).symm⟩
      rw [Nat.mul_comm]
      exact Nat.lt_mul_div_succ _ hpos
    · rintro ⟨m, hle, hlt, rfl⟩
      rw [Nat.div_eq_of_lt_le hle hlt]

end Binary64

/-! ## Which value counts -/

namespace Properties

variable {room : Nat} {properties : Properties} {name : String}

/-- Whether a value is the one that counts for a property: the override if there is one, else the text of
    the value in the settings, with room for so many values inside it. -/
def Counts (room : Nat) (properties : Properties) (name : String) (v : Json) : Prop :=
  Json.lookup name properties.overrides = some v ∨
    Json.lookup name properties.overrides = none ∧ ∃ w text,
      Json.lookup name properties.settings = some w ∧ w.text room = .ok text ∧ v = .str text

/-- Whether a property stands in the settings alone, with a value that is nested too deep for a text. -/
def TooDeep (room : Nat) (properties : Properties) (name : String) : Prop :=
  Json.lookup name properties.overrides = none ∧ ∃ w,
    Json.lookup name properties.settings = some w ∧ w.text room = .error .tooDeep

/-- **The value of a property is the one that counts**, if there is any. -/
theorem value_eq_ok_iff {v : Json} :
    properties.value room name = .ok v ↔ properties.Counts room name v := by
  unfold value Counts
  cases Json.lookup name properties.overrides with
  | some w => simp
  | none =>
    cases Json.lookup name properties.settings with
    | none => simp
    | some w => cases htext : w.text room <;> simp [eq_comm, htext]

theorem value_eq_tooDeep_iff {other : String} :
    properties.value room name = .error (.noText other .tooDeep) ↔
      other = name ∧ properties.TooDeep room name := by
  unfold value TooDeep
  cases Json.lookup name properties.overrides with
  | some w => simp
  | none =>
    cases Json.lookup name properties.settings with
    | none => simp
    | some w => cases htext : w.text room <;> simp [htext, eq_comm]

/-- A value that fits is never too deep. -/
theorem not_tooDeep_of_fits {w : Json} (hw : Json.lookup name properties.settings = some w)
    (hfits : w.FitsRoom 1 (room + 1)) : ¬ properties.TooDeep room name := by
  rintro ⟨-, v, hv, hdeep⟩
  rw [hw] at hv
  cases hv
  exact hfits.text_ne_tooDeep hdeep

end Properties

namespace MaxPageSize

/-! ## What a value says -/

/-- Whether a value says a whole number. -/
inductive Denotes : Json → Int → Prop where
  | int (n : Int) : Denotes (.int n) n
  | no : Denotes (.bool false) 0
  | yes : Denotes (.bool true) 1
  | float {x : Binary64} {n : Int} (h : x.IsTruncated n) : Denotes (.float x) n
  | text {s : String} {n : Int} (h : Text.IsSetting s.toList n) : Denotes (.str s) n

/-- **A value is read as the whole number that it says**, or as none. -/
theorem integerOf?_eq_ok_iff {v : Json} (hfinite : ∀ negative, v ≠ .float (.infinite negative)) :
    ∃ reading, integerOf? v = .ok reading ∧ ∀ n, reading = some n ↔ Denotes v n := by
  cases v with
  | int m =>
    refine ⟨_, rfl, fun n => ⟨?_, ?_⟩⟩
    · rintro ⟨⟩
      exact .int m
    · rintro ⟨⟩
      rfl
  | bool b =>
    refine ⟨_, rfl, fun n => ⟨?_, ?_⟩⟩
    · rintro ⟨⟩
      cases b
      · exact .no
      · exact .yes
    · rintro ⟨⟩ <;> rfl
  | float x =>
    have hreading : integerOf? (.float x) = .ok x.truncated? := by
      cases x with
      | infinite negative => exact absurd rfl (hfinite negative)
      | nan => rfl
      | finite negative mantissa exponent => rfl
    refine ⟨_, hreading, fun n => ⟨?_, ?_⟩⟩
    · intro h
      exact .float (Binary64.truncated?_eq_some_iff.1 h)
    · rintro ⟨⟩
      exact Binary64.truncated?_eq_some_iff.2 ‹_›
  | str s =>
    refine ⟨_, rfl, fun n => ⟨?_, ?_⟩⟩
    · intro h
      exact .text (Text.settingValue?_eq_some_iff.1 h)
    · rintro ⟨⟩
      exact Text.settingValue?_eq_some_iff.2 ‹_›
  | null => exact ⟨_, rfl, fun n => iff_of_false nofun nofun⟩
  | arr items => exact ⟨_, rfl, fun n => iff_of_false nofun nofun⟩
  | obj members => exact ⟨_, rfl, fun n => iff_of_false nofun nofun⟩

/-! ## What comes of it -/

/-- Whether properties give a whole number for the maximum page size. -/
def Gives (room : Nat) (properties : Properties) (n : Int) : Prop :=
  ∃ v, properties.Counts room maxPageSizeProperty v ∧ Denotes v n

/-- Whether a size is the default, logged with one warning and nothing else. -/
def IsFallback (size : MaxPageSize) : Prop :=
  size.value = 100 ∧ ∃ event, size.events = [event] ∧
    event.name = "max_page_size_config_invalid" ∧ event.level = .warning

theorem isFallback_fallback (fault : PageSizeFault) : IsFallback (fallback fault) :=
  ⟨rfl, _, rfl, rfl, rfl⟩

variable {room : Nat} {properties : Properties}

/-- Whether no infinite number overrides the property. -/
def FiniteOverride (properties : Properties) : Prop :=
  ∀ negative, Json.lookup maxPageSizeProperty properties.overrides ≠ some (.float (.infinite negative))

/-- Then the value that counts is not infinite, since a value from the settings is a text. -/
theorem FiniteOverride.ne_infinite (h : FiniteOverride properties) {v : Json}
    (hcounts : properties.Counts room maxPageSizeProperty v) (negative : Bool) :
    v ≠ .float (.infinite negative) := by
  rintro rfl
  rcases hcounts with hover | ⟨-, w, text, -, -, htext⟩
  · exact h negative hover
  · cases htext

/-- **A positive number that is given is taken**, and nothing is logged. -/
theorem load_of_gives (hfinite : FiniteOverride properties) {n : Int} (hpos : 0 < n)
    (hgives : Gives room properties n) : load room properties = .ok ⟨n, []⟩ := by
  obtain ⟨v, hcounts, hdenotes⟩ := hgives
  obtain ⟨reading, hread, hreading⟩ := integerOf?_eq_ok_iff (hfinite.ne_infinite hcounts)
  rw [(hreading n).2 hdenotes] at hread
  unfold load
  rw [Properties.value_eq_ok_iff.2 hcounts]
  dsimp only
  rw [hread]
  dsimp only
  rw [if_pos hpos]

/-- A value that is too deep is refused. -/
theorem load_of_tooDeep (h : properties.TooDeep room maxPageSizeProperty) :
    load room properties = .error .tooDeep := by
  unfold load
  rw [Properties.value_eq_tooDeep_iff.2 ⟨rfl, h⟩]

/-- **Without a positive number there is the default** with one warning, unless a value is too deep. -/
theorem load_of_not_gives (hfinite : FiniteOverride properties)
    (hfits : ¬ properties.TooDeep room maxPageSizeProperty)
    (hnone : ∀ n, Gives room properties n → n ≤ 0) :
    ∃ size, load room properties = .ok size ∧ IsFallback size := by
  unfold load
  cases hvalue : properties.value room maxPageSizeProperty with
  | error fault =>
    cases fault with
    | notSet name => exact ⟨_, rfl, isFallback_fallback _⟩
    | noText name fault =>
      cases fault with
      | tooManyDigits => exact ⟨_, rfl, isFallback_fallback _⟩
      | tooDeep => exact absurd (Properties.value_eq_tooDeep_iff.1 hvalue).2 hfits
  | ok v =>
    have hcounts := Properties.value_eq_ok_iff.1 hvalue
    obtain ⟨reading, hread, hreading⟩ := integerOf?_eq_ok_iff (hfinite.ne_infinite hcounts)
    dsimp only
    rw [hread]
    cases reading with
    | none => exact ⟨_, rfl, isFallback_fallback _⟩
    | some n =>
      have hle : n ≤ 0 := hnone n ⟨v, hcounts, (hreading n).1 rfl⟩
      dsimp only
      rw [if_neg (by omega)]
      exact ⟨_, rfl, isFallback_fallback _⟩

/-- **There is a maximum page size** unless a value is too deep. -/
theorem exists_load_iff (hfinite : FiniteOverride properties) :
    (∃ size, load room properties = .ok size) ↔ ¬ properties.TooDeep room maxPageSizeProperty := by
  constructor
  · rintro ⟨size, hload⟩ hdeep
    rw [load_of_tooDeep hdeep] at hload
    cases hload
  · intro hfits
    by_cases hgives : ∃ n, 0 < n ∧ Gives room properties n
    · obtain ⟨n, hpos, hn⟩ := hgives
      exact ⟨_, load_of_gives hfinite hpos hn⟩
    · obtain ⟨size, hload, -⟩ := load_of_not_gives hfinite hfits fun n hn =>
        Int.not_lt.1 fun hpos => hgives ⟨n, hpos, hn⟩
      exact ⟨size, hload⟩

/-- An override hides the settings. -/
theorem load_of_override {v : Json}
    (h : Json.lookup maxPageSizeProperty properties.overrides = some v) (settings : List (String × Json)) :
    load room { properties with settings := settings } = load room properties := by
  have hother : Properties.value room { properties with settings := settings } maxPageSizeProperty =
      .ok v := Properties.value_of_override h
  unfold load
  rw [hother, Properties.value_of_override h]

/-! ## Integers in the settings -/

/-- The decimal text of an integer. -/
def decimalText (n : Int) : String := String.ofList (Text.integerText n)

/-- Whether settings hold an integer for the property: as a number, in its decimal text, or in its
    decimal text from the environment. -/
inductive Holds (n : Int) : List (String × Json) → Prop where
  | number {settings : List (String × Json)}
      (h : Json.lookup maxPageSizeProperty settings = some (.int n)) : Holds n settings
  | text {settings : List (String × Json)}
      (h : Json.lookup maxPageSizeProperty settings = some (.str (decimalText n))) : Holds n settings
  | environment {env : Environment}
      (h : env.get? "A2A_PUSH_NOTIFICATION_CONFIG_MAX_PAGE_SIZE" = some (decimalText n)) :
      Holds n (ServiceSettings.ofEnvironment env).properties

/-- A text from the environment that is not empty stands in the settings. -/
theorem lookup_properties {env : Environment} {text : String}
    (h : env.get? "A2A_PUSH_NOTIFICATION_CONFIG_MAX_PAGE_SIZE" = some text) (hne : text ≠ "") :
    Json.lookup maxPageSizeProperty (ServiceSettings.ofEnvironment env).properties =
      some (.str text) := by
  have hempty : text.isEmpty = false := by
    rw [← Bool.not_eq_true, String.isEmpty_iff]
    exact hne
  have hsize : (ServiceSettings.ofEnvironment env).maxPageSize = some text := by
    show env.nonempty? _ = _
    unfold Environment.nonempty?
    rw [h]
    dsimp only
    rw [hempty]
    rfl
  unfold ServiceSettings.properties
  rw [hsize]
  rfl

theorem decimalText_ne_empty (n : Int) : decimalText n ≠ "" := by
  intro h
  have hnil := congrArg String.toList h
  rw [decimalText, String.toList_ofList] at hnil
  exact Text.integerText_ne_nil n hnil

/-- A decimal text says its integer if it has few enough digits, and nothing else. -/
theorem denotes_decimalText_iff {n m : Int} :
    Denotes (.str (decimalText n)) m ↔ Text.isShort n = true ∧ m = n := by
  have hsetting : Denotes (.str (decimalText n)) m ↔ Text.settingValue? (decimalText n) = some m := by
    rw [Text.settingValue?_eq_some_iff]
    exact ⟨fun h => by cases h; assumption, .text⟩
  rw [hsetting, decimalText, Text.settingValue?_integerText]
  cases Text.isShort n <;> simp [eq_comm]

/-- Without an override it is the text of what the settings hold that is given. -/
theorem gives_iff_of_settings (hover : Json.lookup maxPageSizeProperty properties.overrides = none)
    {w : Json} (hw : Json.lookup maxPageSizeProperty properties.settings = some w) {m : Int} :
    Gives room properties m ↔ ∃ text, w.text room = .ok text ∧ Denotes (.str text) m := by
  unfold Gives Properties.Counts
  rw [hover, hw]
  constructor
  · rintro ⟨v, hnone | ⟨-, w', text, hw', htext, rfl⟩, hdenotes⟩
    · cases hnone
    · cases hw'
      exact ⟨text, htext, hdenotes⟩
  · rintro ⟨text, htext, hdenotes⟩
    exact ⟨_, Or.inr ⟨rfl, w, text, rfl, htext, rfl⟩, hdenotes⟩

/-- Settings that hold an integer have it as a number or in its decimal text. -/
theorem lookup_of_holds {n : Int} {settings : List (String × Json)} (h : Holds n settings) :
    Json.lookup maxPageSizeProperty settings = some (.int n) ∨
      Json.lookup maxPageSizeProperty settings = some (.str (decimalText n)) := by
  cases h with
  | number h => exact Or.inl h
  | text h => exact Or.inr h
  | environment h => exact Or.inr (lookup_properties h (decimalText_ne_empty n))

/-- **An integer in the settings is given** if it has few enough digits, and no other one is. -/
theorem gives_of_holds (hover : Json.lookup maxPageSizeProperty properties.overrides = none) {n : Int}
    (hholds : Holds n properties.settings) {m : Int} :
    Gives room properties m ↔ Text.isShort n = true ∧ m = n := by
  rcases lookup_of_holds hholds with hnumber | htext
  · rw [gives_iff_of_settings hover hnumber, Json.text_int, ← decimalText]
    cases hshort : Text.isShort n with
    | true => simp [denotes_decimalText_iff, hshort]
    | false => simp
  · rw [gives_iff_of_settings hover htext]
    simp [denotes_decimalText_iff]

/-- **An integer in the settings is taken** if it is positive and has few enough digits. -/
theorem load_of_holds (hover : Json.lookup maxPageSizeProperty properties.overrides = none) {n : Int}
    (hholds : Holds n properties.settings) :
    ∃ size, load room properties = .ok size ∧
      if 0 < n ∧ n < 10 ^ 4300 then size = ⟨n, []⟩ else IsFallback size := by
  have hfinite : FiniteOverride properties := by
    intro negative h
    rw [hover] at h
    cases h
  -- A number and a text have nothing inside them.
  have hfits : ¬ properties.TooDeep room maxPageSizeProperty := by
    rcases lookup_of_holds hholds with hnumber | htext
    · exact Properties.not_tooDeep_of_fits hnumber trivial
    · exact Properties.not_tooDeep_of_fits htext trivial
  -- The bound on the digits of a positive number is a bound on the number.
  have hfew : 0 < n → (Text.isShort n = true ↔ n < 10 ^ 4300) := by
    intro hpos
    rw [Text.isShort_iff, ← Int.ofNat_lt, Int.natAbs_of_nonneg (by omega), Int.natCast_pow,
      Text.maxDigits]
    exact Iff.rfl
  by_cases htaken : 0 < n ∧ n < 10 ^ 4300
  · refine ⟨_, load_of_gives hfinite htaken.1 ((gives_of_holds hover hholds).2 ⟨?_, rfl⟩), ?_⟩
    · exact (hfew htaken.1).2 htaken.2
    · rw [if_pos htaken]
  · obtain ⟨size, hload, hfallback⟩ := load_of_not_gives hfinite hfits fun m hm => by
      obtain ⟨hlength, rfl⟩ := (gives_of_holds hover hholds).1 hm
      exact Int.not_lt.1 fun hpos => htaken ⟨hpos, (hfew hpos).1 hlength⟩
    refine ⟨size, hload, ?_⟩
    rw [if_neg htaken]
    exact hfallback

/-! ## The whole of it -/

/-- Whether the maximum page size is read faithfully from properties, where the stack leaves room for so
    many values inside a settings value. There is one unless the property stands in the settings alone and
    is nested too deep, and it is positive. A positive number that the properties give is taken without an
    event, and in every other case it is the default with one warning; an override alone counts, whatever
    the settings hold; and an integer of any length in the settings is taken if it is positive and below
    the power of ten with one digit more than is read. -/
structure ReadFaithfully (room : Nat) (properties : Properties) : Prop where
  usable : (∃ size, load room properties = .ok size) ↔ ¬ properties.TooDeep room maxPageSizeProperty
  positive : ∀ size, load room properties = .ok size → 1 ≤ size.value
  refused : properties.TooDeep room maxPageSizeProperty → load room properties = .error .tooDeep
  fitting : ∀ w, Json.lookup maxPageSizeProperty properties.settings = some w → w.FitsRoom 1 (room + 1) →
    ¬ properties.TooDeep room maxPageSizeProperty
  nested : ∀ w, Json.lookup maxPageSizeProperty properties.overrides = none →
    Json.lookup maxPageSizeProperty properties.settings = some w → w.IsShort →
      ¬ w.FitsRoom 1 (room + 1) → properties.TooDeep room maxPageSizeProperty
  taken : ∀ n, 0 < n → Gives room properties n → load room properties = .ok ⟨n, []⟩
  fallsBack : ¬ properties.TooDeep room maxPageSizeProperty → (∀ n, 0 < n → ¬ Gives room properties n) →
    ∃ size, load room properties = .ok size ∧ IsFallback size
  overriding : ∀ v, Json.lookup maxPageSizeProperty properties.overrides = some v →
    ∀ settings, load room { properties with settings := settings } = load room properties
  integers : Json.lookup maxPageSizeProperty properties.overrides = none →
    ∀ n, Holds n properties.settings → ∃ size, load room properties = .ok size ∧
      if 0 < n ∧ n < 10 ^ 4300 then size = ⟨n, []⟩ else IsFallback size

/-- **The maximum page size is read faithfully**, whatever the settings hold and whatever overrides them,
    short of an infinite number. -/
theorem read_faithfully (room : Nat) (properties : Properties) (hfinite : FiniteOverride properties) :
    ReadFaithfully room properties where
  usable := exists_load_iff hfinite
  positive _ hload := value_pos hload
  refused := load_of_tooDeep
  fitting _ hw hfits := Properties.not_tooDeep_of_fits hw hfits
  nested _ hover hw hshort hdeep := ⟨hover, _, hw, hshort.text_eq_tooDeep hdeep⟩
  taken _ hpos hgives := load_of_gives hfinite hpos hgives
  fallsBack hfits hnone :=
    load_of_not_gives hfinite hfits fun n hn => Int.not_lt.1 fun hpos => hnone n hpos hn
  overriding _ hover settings := load_of_override hover settings
  integers hover _ hholds := load_of_holds hover hholds

/-- An override with blanks around it, a plus, an underscore and digits of two scripts; the settings hold
    a number that is not positive, and another property is infinite. -/
theorem read_faithfully_of_grouped_override :
    let properties : Properties :=
      ⟨[("other", .float (.infinite false)), (maxPageSizeProperty, .str "\u00a0+1_٢\n")],
        [(maxPageSizeProperty, .int (-5))]⟩
    FiniteOverride properties ∧ Gives 900 properties 12 ∧ ReadFaithfully 900 properties ∧
      load 900 properties = .ok ⟨12, []⟩ := by
  intro properties
  have hover : Json.lookup maxPageSizeProperty properties.overrides = some (.str "\u00a0+1_٢\n") := rfl
  have hfinite : FiniteOverride properties := by
    intro negative h
    rw [hover] at h
    cases h
  have hgives : Gives 900 properties 12 :=
    ⟨_, Or.inl hover, .text (Text.settingValue?_eq_some_iff.1 (by decide +kernel))⟩
  have hread := read_faithfully 900 properties hfinite
  exact ⟨hfinite, hgives, hread, hread.taken 12 (by decide) hgives⟩

/-- **A list that is nested too deep is refused**: there is no default and no warning. -/
theorem not_usable_of_nested :
    let properties : Properties := ⟨[], [(maxPageSizeProperty, Json.nested 988)]⟩
    FiniteOverride properties ∧ load 980 properties = .error .tooDeep := by
  intro properties
  refine ⟨nofun, load_of_tooDeep ⟨rfl, _, rfl, Json.text_nested (by decide)⟩⟩

end MaxPageSize

end WebhookRegistry
