/-
  What becomes of each text that is sent as a page token.

  1. **The grammar** (`Spells`): a number, the first colon, and the id, which may be any text. The number
     is a sign, or none, and digits of any script (`IsNumeral`).

  2. **The number** (`readMillis_of_isNumeral`, `readMillis_of_not_isNumeral`): a numeral is read if it
     fits in 64 bits; any other text is no number.

  3. **The token** (`verdict_cases`): a text without a colon, a text with something else than a numeral in
     front of it, and a text that spells a number and an id, which then alone decide (`placed`): a number
     beyond 64 bits, a number that no calendar holds, or a place.

  `ReadByGrammar` says what a client sees of it: which texts ask for the first page, which name a place
  and what place, and that all others are refused as malformed.
-/
import WebhookRegistry.Proofs.Paging.TokenGrammar
import WebhookRegistry.Store.Basic

namespace WebhookRegistry

/-! ## Milliseconds that are times -/

/-- Whether a number of milliseconds lies in the years 1 to 9999. -/
def InCalendar (m : Int) : Prop := -62135596800000 ≤ m ∧ m ≤ 253402300799999

theorem LogicalTime.exists_ofMillis?_iff {m : Int} :
    (∃ time, ofMillis? m = some time) ↔ InCalendar m := by
  constructor
  · rintro ⟨time, htime⟩
    obtain ⟨t, ht, -⟩ := ofMillis?_eq_some_iff.1 htime
    have hbounds := t.millis_bounds
    unfold Instant.millis at hbounds
    unfold InCalendar
    omega
  · intro h
    unfold InCalendar at h
    have hfirst : firstMicro ≤ 1000 * m := by unfold firstMicro; omega
    have hlast : 1000 * m ≤ lastMicro := by unfold lastMicro; omega
    exact ⟨_, ofMillis?_eq_some_iff.2 ⟨⟨1000 * m, hfirst, hlast⟩, rfl, rfl⟩⟩

/-- **The time of a number of milliseconds** is that instant, and is unset for zero only. -/
theorem LogicalTime.of_ofMillis?_eq_some {m : Int} {time : LogicalTime} (h : ofMillis? m = some time) :
    time.toInstant.micros = 1000 * m ∧ (time.isUnset = true ↔ m = 0) := by
  obtain ⟨t, ht, rfl⟩ := ofMillis?_eq_some_iff.1 h
  have hinstant : (of (some t)).toInstant = t := toInstant_of (some t)
  refine ⟨by rw [hinstant, ht], ?_⟩
  have hzero : t = .epoch ↔ m = 0 := by
    rw [Instant.ext_iff, Instant.micros_epoch]
    omega
  unfold of isUnset unset
  by_cases hepoch : t = .epoch
  · simp [hepoch, hzero.1 hepoch]
  · have hne : m ≠ 0 := fun hm => hepoch (hzero.2 hm)
    simp [hepoch, hne]

namespace PageToken

open Text (IsSign)

/-! ## The grammar -/

/-- Whether a text is a numeral, and of which number: a sign, or none, and one digit or more. -/
def IsNumeral (cs : List Char) (n : Int) : Prop :=
  ∃ sign digits, IsSign sign ∧ digits ≠ [] ∧ (∀ c ∈ digits, Text.isDigit c = true) ∧
    cs = sign ++ digits ∧ n = Text.signed (decide (sign = ['-'])) (Text.digitsValue digits)

/-- Whether a token spells a number and an id: the numeral ends at the first colon, and all that stands
    behind it is the id. -/
def Spells (token : String) (n : Int) (id : String) : Prop :=
  ∃ number, token.toList = number ++ ':' :: id.toList ∧ ':' ∉ number ∧ IsNumeral number n

/-- How many digits of any script stand in front of the first colon of a token. -/
def digitsBeforeColon (token : String) : Nat :=
  (token.toList.takeWhile (· != ':')).countP Text.isDigit

theorem digitsBeforeColon_of_toList {token : String} {number id : List Char}
    (htoken : token.toList = number ++ ':' :: id) (hnot : ':' ∉ number) :
    digitsBeforeColon token = number.countP Text.isDigit := by
  unfold digitsBeforeColon
  rw [htoken, List.takeWhile_append_of_pos (ne_colon_of_not_mem hnot),
    List.takeWhile_cons_of_neg (by decide), List.append_nil]

/-! ## The number -/

/-- Whether a number fits in 64 bits with sign. -/
def InInt64 (n : Int) : Prop := -9223372036854775808 ≤ n ∧ n ≤ 9223372036854775807

theorem fitsInt64_iff {n : Int} : fitsInt64 n = true ↔ InInt64 n := by
  unfold fitsInt64 InInt64
  rw [Bool.and_eq_true, decide_eq_true_eq, decide_eq_true_eq]
  omega

/-- **A numeral is read if it fits in 64 bits** and is not too long. -/
theorem readMillis_of_isNumeral {cs : List Char} {n : Int} (h : IsNumeral cs n)
    (hfew : cs.countP Text.isDigit ≤ Text.maxDigits) :
    readMillis cs = if fitsInt64 n then .ok n else .error .notMillis := by
  obtain ⟨sign, digits, hsign, hne, hdigits, rfl, rfl⟩ := h
  have hlength : digits.length ≤ Text.maxDigits := by
    have hall : digits.countP Text.isDigit = digits.length := List.countP_eq_length.2 hdigits
    rw [List.countP_append] at hfew
    omega
  rw [readMillis_append hsign hne hdigits, if_neg (by omega)]

/-- What is no numeral is no number. -/
theorem readMillis_of_not_isNumeral {cs : List Char} (h : ∀ n, ¬ IsNumeral cs n) :
    readMillis cs = .error .notMillis := by
  rcases readMillis_cases cs with ⟨sign, digits, hsign, hne, hdigits, hcs⟩ | hrefused
  · exact absurd ⟨sign, digits, hsign, hne, hdigits, hcs, rfl⟩ (h _)
  · exact hrefused

/-! ## The token -/

/-- What becomes of a token that spells a number and an id. -/
def placed (n : Int) (id : String) : Except Fault (Option Cursor) :=
  if fitsInt64 n then
    match LogicalTime.ofMillis? n with
    | none => .error .outOfRange
    | some time => .ok (some ⟨time, id⟩)
  else .error .notMillis

theorem placed_eq_ok_iff {n : Int} {id : String} {cursor : Cursor} :
    placed n id = .ok (some cursor) ↔ LogicalTime.ofMillis? n = some cursor.time ∧ cursor.id = id := by
  constructor
  · intro h
    unfold placed at h
    split at h
    · split at h
      · cases h
      · next time htime =>
        cases h
        exact ⟨htime, rfl⟩
    · cases h
  · rintro ⟨htime, rfl⟩
    have hcalendar : InCalendar n := LogicalTime.exists_ofMillis?_iff.1 ⟨_, htime⟩
    have hinside : InInt64 n := by
      unfold InCalendar at hcalendar
      unfold InInt64
      omega
    have hfits : fitsInt64 n = true := fitsInt64_iff.2 hinside
    unfold placed
    rw [if_pos hfits, htime]

theorem placed_eq_outOfRange_iff {n : Int} {id : String} :
    placed n id = .error .outOfRange ↔ InInt64 n ∧ ¬ InCalendar n := by
  rw [← fitsInt64_iff, ← LogicalTime.exists_ofMillis?_iff]
  unfold placed
  cases htime : LogicalTime.ofMillis? n with
  | none => by_cases hfits : fitsInt64 n = true <;> simp [hfits]
  | some time => by_cases hfits : fitsInt64 n = true <;> simp [hfits]

/-- **What a token spells decides what becomes of it.** -/
theorem Spells.decode_eq {token id : String} {n : Int} (h : Spells token n id)
    (hfew : digitsBeforeColon token ≤ Text.maxDigits) : decode (some token) = placed n id := by
  obtain ⟨number, htoken, hnot, hnumeral⟩ := h
  have hne : token ≠ "" := by
    rintro rfl
    simp at htoken
  rw [digitsBeforeColon_of_toList htoken hnot] at hfew
  rw [decode_of_ne hne, htoken, decodeChars_append hnot, readMillis_of_isNumeral hnumeral hfew]
  unfold placed
  by_cases hfits : fitsInt64 n = true
  · rw [if_pos hfits, if_pos hfits]
    dsimp only
    cases LogicalTime.ofMillis? n with
    | none => rfl
    | some time =>
      rw [String.ofList_toList]
      rfl
  · rw [if_neg hfits, if_neg hfits]
    rfl

/-- **A token that is not empty** has no colon, or no numeral in front of the first one, or spells a
    number and an id. -/
theorem verdict_cases {token : String} (hne : token ≠ "") :
    (':' ∉ token.toList ∧ decode (some token) = .error .noSeparator) ∨
      (':' ∈ token.toList ∧ decode (some token) = .error .notMillis ∧ ∀ n id, ¬ Spells token n id) ∨
      ∃ n id, Spells token n id := by
  by_cases hcolon : ':' ∈ token.toList
  · by_cases hspells : ∃ n id, Spells token n id
    · exact Or.inr (Or.inr hspells)
    · have hnone : ∀ n id, ¬ Spells token n id := fun n id h => hspells ⟨n, id, h⟩
      obtain ⟨number, id, htoken, hnot⟩ := List.eq_append_cons_of_mem hcolon
      have hnumeral : ∀ n, ¬ IsNumeral number n := by
        intro n hn
        exact hnone n (String.ofList id) ⟨number, by rw [htoken, String.toList_ofList], hnot, hn⟩
      refine Or.inr (Or.inl ⟨hcolon, ?_, hnone⟩)
      rw [decode_of_ne hne, htoken, decodeChars_append hnot, readMillis_of_not_isNumeral hnumeral]
      rfl
  · refine Or.inl ⟨hcolon, ?_⟩
    rw [decode_of_ne hne, decodeChars_of_not_mem hcolon]
    rfl

/-! ## What a client sees -/

/-- Whether a token that is refused tells the client so, with the calendar as the cause exactly if the
    token spells a number of 64 bits that no calendar holds. -/
structure RefusedFor (token : String) (fault : Fault) : Prop where
  malformed : ∃ message, (Failure.token fault).report = some (.invalidParams message)
  cause_iff : (Failure.token fault).cause? = some .outOfCalendar ↔
    ∃ n id, Spells token n id ∧ InInt64 n ∧ ¬ InCalendar n

/-- Whether a token is read by the grammar: the empty one asks for the first page, one that spells a
    time in milliseconds and an id names their place, and every other one is refused. -/
structure ReadByGrammar (token : String) : Prop where
  firstPage : decode (some token) = .ok none ↔ token = ""
  accepted : (∃ cursor, decode (some token) = .ok (some cursor)) ↔
    ∃ n id, Spells token n id ∧ InCalendar n
  place : ∀ cursor n id, decode (some token) = .ok (some cursor) → Spells token n id →
    cursor.id = id ∧ cursor.time.toInstant.micros = 1000 * n ∧ (cursor.time.isUnset = true ↔ n = 0)
  refused : token ≠ "" → (∀ n id, Spells token n id → ¬ InCalendar n) →
    ∃ fault, decode (some token) = .error fault ∧ RefusedFor token fault

/-- A calendar is the cause of a refusal for its range only. -/
theorem cause?_token_eq_some_iff {fault : Fault} :
    (Failure.token fault).cause? = some .outOfCalendar ↔ fault = .outOfRange := by
  cases fault <;> simp [Failure.cause?]

/-- Where a token spells nothing, no number that it spells can be the cause. -/
theorem refusedFor_of_not_spells {token : String} {fault : Fault} (hrange : fault ≠ .outOfRange)
    (hlong : fault ≠ .tooManyDigits) (hspells : ∀ n id, ¬ Spells token n id) :
    RefusedFor token fault where
  malformed := by
    cases fault <;> simp_all [Failure.report]
  cause_iff := by
    rw [cause?_token_eq_some_iff]
    constructor
    · intro h
      exact absurd h hrange
    · rintro ⟨n, id, h, -⟩
      exact absurd h (hspells n id)

/-- **A number that is no time is refused**, and the calendar is the cause if the number has 64 bits. -/
theorem Spells.exists_refusedFor {token id : String} {n : Int} (h : Spells token n id)
    (hfew : digitsBeforeColon token ≤ Text.maxDigits) (hout : ¬ InCalendar n) :
    ∃ fault, decode (some token) = .error fault ∧ RefusedFor token fault := by
  by_cases hfits : fitsInt64 n = true
  · have hinside : InInt64 n := fitsInt64_iff.1 hfits
    have hrange : placed n id = .error .outOfRange := placed_eq_outOfRange_iff.2 ⟨hinside, hout⟩
    refine ⟨.outOfRange, (h.decode_eq hfew).trans hrange, ⟨_, rfl⟩, ?_⟩
    rw [cause?_token_eq_some_iff]
    exact ⟨fun _ => ⟨n, id, h, hinside, hout⟩, fun _ => rfl⟩
  · have hlarge : placed n id = .error .notMillis := by
      unfold placed
      rw [if_neg hfits]
    refine ⟨.notMillis, (h.decode_eq hfew).trans hlarge, ⟨_, rfl⟩, ?_⟩
    rw [cause?_token_eq_some_iff]
    constructor
    · intro heq
      cases heq
    · rintro ⟨n', id', h', hinside', hout'⟩
      -- Whatever else the token may spell comes to the same.
      have hsame := (h.decode_eq hfew).symm.trans (h'.decode_eq hfew)
      rw [hlarge, placed_eq_outOfRange_iff.2 ⟨hinside', hout'⟩] at hsame
      cases hsame

/-- A token without a time is refused. -/
theorem exists_refusedFor {token : String} (hfew : digitsBeforeColon token ≤ Text.maxDigits)
    (hne : token ≠ "") (hnone : ∀ n id, Spells token n id → ¬ InCalendar n) :
    ∃ fault, decode (some token) = .error fault ∧ RefusedFor token fault := by
  rcases verdict_cases hne with ⟨hcolon, hdecode⟩ | ⟨-, hdecode, hspells⟩ | ⟨n, id, hspells⟩
  · have hnothing : ∀ n id, ¬ Spells token n id := by
      rintro n id ⟨number, htoken, -⟩
      refine hcolon ?_
      rw [htoken]
      exact List.mem_append_right _ List.mem_cons_self
    exact ⟨_, hdecode, refusedFor_of_not_spells (by decide) (by decide) hnothing⟩
  · exact ⟨_, hdecode, refusedFor_of_not_spells (by decide) (by decide) hspells⟩
  · exact hspells.exists_refusedFor hfew (hnone n id hspells)

/-- **Every token is read by the grammar** if no more than 4300 digits stand in front of its first
    colon. -/
theorem read_by_grammar (token : String) (hfew : digitsBeforeColon token ≤ 4300) :
    ReadByGrammar token where
  firstPage := by
    constructor
    · intro h
      refine Decidable.byContradiction fun hne => ?_
      rw [decode_of_ne hne] at h
      cases hread : decodeChars token.toList with
      | error fault =>
        rw [hread] at h
        cases h
      | ok cursor =>
        rw [hread] at h
        cases h
    · rintro rfl
      exact decode_empty
  accepted := by
    constructor
    · rintro ⟨cursor, hcursor⟩
      have hne : token ≠ "" := by
        rintro rfl
        cases hcursor
      rcases verdict_cases hne with ⟨-, hdecode⟩ | ⟨-, hdecode, -⟩ | ⟨n, id, hspells⟩
      · rw [hdecode] at hcursor
        cases hcursor
      · rw [hdecode] at hcursor
        cases hcursor
      · rw [hspells.decode_eq hfew, placed_eq_ok_iff] at hcursor
        exact ⟨n, id, hspells, LogicalTime.exists_ofMillis?_iff.1 ⟨_, hcursor.1⟩⟩
    · rintro ⟨n, id, hspells, hcalendar⟩
      obtain ⟨time, htime⟩ := LogicalTime.exists_ofMillis?_iff.2 hcalendar
      exact ⟨⟨time, id⟩, (hspells.decode_eq hfew).trans (placed_eq_ok_iff.2 ⟨htime, rfl⟩)⟩
  place cursor n id hcursor hspells := by
    rw [hspells.decode_eq hfew, placed_eq_ok_iff] at hcursor
    exact ⟨hcursor.2, LogicalTime.of_ofMillis?_eq_some hcursor.1⟩
  refused hne hnone := exists_refusedFor hfew hne hnone

/-- A minus, a zero in front and a digit of another script are read; the colons behind the first belong
    to the id. -/
theorem read_by_grammar_of_mixed_digits :
    digitsBeforeColon "-0１:7:" ≤ 4300 ∧ Spells "-0１:7:" (-1) "7:" ∧ InCalendar (-1) ∧
      ReadByGrammar "-0１:7:" := by
  have hfew : digitsBeforeColon "-0１:7:" ≤ 4300 := by decide
  have hdigits : ∀ c ∈ ['0', '１'], Text.isDigit c = true := by
    intro c hc
    rcases List.mem_cons.1 hc with rfl | hlast
    · decide
    · rw [List.mem_singleton.1 hlast]
      decide
  have hspells : Spells "-0１:7:" (-1) "7:" :=
    ⟨['-', '0', '１'], rfl, by decide, ['-'], ['0', '１'], Or.inr (Or.inr rfl), by decide, hdigits,
      rfl, by decide⟩
  exact ⟨hfew, hspells, ⟨by decide, by decide⟩, read_by_grammar _ hfew⟩

end PageToken

end WebhookRegistry
