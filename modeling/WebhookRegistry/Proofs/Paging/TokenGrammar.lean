/-
  Which texts are page tokens, and why a text is not.

  1. **The number** (`readMillis_append`): a sign, or none, and digits of any script. Such a text is read
     unless it has too many digits or its number does not fit in 64 bits; every other text is refused as
     no number (`readMillis_cases`).

  2. **The first colon** (`decodeChars_append`): it ends the number, so an id may hold colons itself.

  3. **Whole tokens**: what an accepted token is made of (`decode_eq_ok_some_iff`), and the one reason
     for which a token is refused without a message for the client (`decode_eq_tooManyDigits_iff`).
-/
import WebhookRegistry.Paging.PageToken
import WebhookRegistry.Proofs.Text.IntegerText

namespace WebhookRegistry.PageToken

open Text (IsSign)

/-! ## The number in front of the colon -/

/-- The number in front of the colon is a sign and digits, or it is refused as no number. -/
theorem readMillis_cases (cs : List Char) :
    (∃ sign digits, IsSign sign ∧ digits ≠ [] ∧ (∀ c ∈ digits, Text.isDigit c = true) ∧
      cs = sign ++ digits) ∨ readMillis cs = .error .notMillis := by
  obtain ⟨sign, hsign, hcs⟩ := Text.exists_sign cs
  by_cases hrefused : ((Text.splitSign cs).2.isEmpty || !(Text.splitSign cs).2.all Text.isDigit) = true
  · refine Or.inr ?_
    unfold readMillis
    dsimp only
    rw [if_pos hrefused]
  · rw [Bool.or_eq_true, not_or, List.isEmpty_iff, Bool.not_eq_true', Bool.not_eq_false,
      List.all_eq_true] at hrefused
    exact Or.inl ⟨sign, _, hsign, hrefused.1, hrefused.2, hcs⟩

/-- **A sign and digits are read** as far as the two limits allow. -/
theorem readMillis_append {sign digits : List Char} (hsign : IsSign sign) (hne : digits ≠ [])
    (hdigits : ∀ c ∈ digits, Text.isDigit c = true) :
    readMillis (sign ++ digits) =
      if Text.maxDigits < digits.length then .error .tooManyDigits
      else if fitsInt64 (Text.signed (decide (sign = ['-'])) (Text.digitsValue digits)) then
        .ok (Text.signed (decide (sign = ['-'])) (Text.digitsValue digits))
      else .error .notMillis := by
  have hempty : digits.isEmpty = false := by
    rw [← Bool.not_eq_true, List.isEmpty_iff]
    exact hne
  have hall : digits.all Text.isDigit = true := List.all_eq_true.2 hdigits
  unfold readMillis
  rw [Text.splitSign_append hsign hdigits]
  dsimp only
  rw [hempty, hall, if_neg (by decide)]

/-- A number is too long to be read if it has too many digits, and for no other reason. -/
theorem readMillis_eq_tooManyDigits_iff {cs : List Char} :
    readMillis cs = .error .tooManyDigits ↔
      ∃ sign digits, IsSign sign ∧ (∀ c ∈ digits, Text.isDigit c = true) ∧
        Text.maxDigits < digits.length ∧ cs = sign ++ digits := by
  constructor
  · intro h
    rcases readMillis_cases cs with ⟨sign, digits, hsign, hne, hdigits, rfl⟩ | hrefused
    · rw [readMillis_append hsign hne hdigits] at h
      by_cases hlong : Text.maxDigits < digits.length
      · exact ⟨sign, digits, hsign, hdigits, hlong, rfl⟩
      · rw [if_neg hlong] at h
        split at h <;> cases h
    · rw [hrefused] at h
      cases h
  · rintro ⟨sign, digits, hsign, hdigits, hlong, rfl⟩
    have hne : digits ≠ [] := List.ne_nil_of_length_pos (by omega)
    rw [readMillis_append hsign hne hdigits, if_pos hlong]

/-! ## The first colon -/

theorem ne_colon_of_not_mem {cs : List Char} (h : ':' ∉ cs) : ∀ c ∈ cs, (c != ':') = true :=
  fun _ hc => bne_iff_ne.2 fun heq => h (heq ▸ hc)

/-- Without a colon there is no place. -/
theorem decodeChars_of_not_mem {cs : List Char} (h : ':' ∉ cs) :
    decodeChars cs = .error .noSeparator := by
  have hdrop : cs.dropWhile (· != ':') = [] := by
    have happend : (cs ++ []).dropWhile (· != ':') = [] :=
      List.dropWhile_append_of_pos (ne_colon_of_not_mem h)
    rw [List.append_nil] at happend
    exact happend
  unfold decodeChars
  rw [hdrop]

/-- **The first colon ends the number**, whatever stands behind it. -/
theorem decodeChars_append {number id : List Char} (h : ':' ∉ number) :
    decodeChars (number ++ ':' :: id) =
      match readMillis number with
      | .error fault => .error fault
      | .ok n =>
        match LogicalTime.ofMillis? n with
        | none => .error .outOfRange
        | some time => .ok ⟨time, String.ofList id⟩ := by
  have hne := ne_colon_of_not_mem h
  have hfront : (number ++ ':' :: id).takeWhile (· != ':') = number := by
    rw [List.takeWhile_append_of_pos hne, List.takeWhile_cons_of_neg (by decide), List.append_nil]
  have hback : (number ++ ':' :: id).dropWhile (· != ':') = ':' :: id := by
    rw [List.dropWhile_append_of_pos hne, List.dropWhile_cons_of_neg (by decide)]
  unfold decodeChars
  generalize (number ++ ':' :: id).takeWhile (· != ':') = front at hfront ⊢
  generalize (number ++ ':' :: id).dropWhile (· != ':') = back at hback ⊢
  subst hfront hback
  rfl

/-- A text names a place if the number in front of its colon is that of a time. -/
theorem decodeChars_append_eq_ok_iff {number id : List Char} {cursor : Cursor} (h : ':' ∉ number) :
    decodeChars (number ++ ':' :: id) = .ok cursor ↔
      ∃ n time, readMillis number = .ok n ∧ LogicalTime.ofMillis? n = some time ∧
        cursor = ⟨time, String.ofList id⟩ := by
  rw [decodeChars_append h]
  constructor
  · intro heq
    split at heq
    · cases heq
    · next n hn =>
      split at heq
      · cases heq
      · next time htime => exact ⟨n, time, hn, htime, (Except.ok.inj heq).symm⟩
  · rintro ⟨n, time, hn, htime, rfl⟩
    rw [hn]
    dsimp only
    rw [htime]

/-- A token that names a place has a colon. -/
theorem exists_colon_of_decodeChars {cs : List Char} {cursor : Cursor}
    (h : decodeChars cs = .ok cursor) : ∃ number id, cs = number ++ ':' :: id ∧ ':' ∉ number := by
  by_cases hcolon : ':' ∈ cs
  · exact List.eq_append_cons_of_mem hcolon
  · rw [decodeChars_of_not_mem hcolon] at h
    cases h

/-- A text is refused for the length of its number only. -/
theorem decodeChars_eq_tooManyDigits_iff {cs : List Char} :
    decodeChars cs = .error .tooManyDigits ↔
      ∃ sign digits id, IsSign sign ∧ (∀ c ∈ digits, Text.isDigit c = true) ∧
        Text.maxDigits < digits.length ∧ cs = sign ++ digits ++ ':' :: id := by
  constructor
  · intro h
    by_cases hcolon : ':' ∈ cs
    · obtain ⟨number, id, rfl, hnot⟩ := List.eq_append_cons_of_mem hcolon
      rw [decodeChars_append hnot] at h
      split at h
      · next fault hfault =>
        cases h
        obtain ⟨sign, digits, hsign, hdigits, hlong, rfl⟩ := readMillis_eq_tooManyDigits_iff.1 hfault
        exact ⟨sign, digits, id, hsign, hdigits, hlong, rfl⟩
      · split at h <;> cases h
    · rw [decodeChars_of_not_mem hcolon] at h
      cases h
  · rintro ⟨sign, digits, id, hsign, hdigits, hlong, rfl⟩
    have hnot : ':' ∉ sign ++ digits := by
      rw [List.mem_append]
      rintro (h | h)
      · rcases hsign with rfl | rfl | rfl <;> exact absurd h (by decide)
      · exact absurd (hdigits _ h) (by decide)
    rw [decodeChars_append hnot,
      readMillis_eq_tooManyDigits_iff.2 ⟨sign, digits, hsign, hdigits, hlong, rfl⟩]

/-! ## Whole tokens -/

/-- A token that is not empty is read as its characters are. -/
theorem decode_of_ne {text : String} (h : text ≠ "") :
    decode (some text) = (decodeChars text.toList).map some := by
  have hempty : text.isEmpty = false := by
    rw [← Bool.not_eq_true, String.isEmpty_iff]
    exact h
  unfold decode
  dsimp only
  rw [hempty]
  cases decodeChars text.toList <;> rfl

/-- A token names a place if its characters do. -/
theorem decode_eq_ok_some_iff_decodeChars {text : String} {cursor : Cursor} :
    decode (some text) = .ok (some cursor) ↔ decodeChars text.toList = .ok cursor := by
  by_cases hempty : text = ""
  · subst hempty
    constructor <;> intro h <;> cases h
  · rw [decode_of_ne hempty]
    cases decodeChars text.toList with
    | error fault => constructor <;> intro h <;> cases h
    | ok c =>
      constructor <;> intro h <;> cases h <;> rfl

/-- **What an accepted token is made of**: a number that is a time in milliseconds, the first colon, and
    the id. -/
theorem decode_eq_ok_some_iff {text : String} {cursor : Cursor} :
    decode (some text) = .ok (some cursor) ↔
      ∃ number id n time, text.toList = number ++ ':' :: id ∧ ':' ∉ number ∧
        readMillis number = .ok n ∧ LogicalTime.ofMillis? n = some time ∧
        cursor = ⟨time, String.ofList id⟩ := by
  rw [decode_eq_ok_some_iff_decodeChars]
  constructor
  · intro h
    obtain ⟨number, id, htext, hnot⟩ := exists_colon_of_decodeChars h
    rw [htext] at h
    obtain ⟨n, time, hn, htime, hcursor⟩ := (decodeChars_append_eq_ok_iff hnot).1 h
    exact ⟨number, id, n, time, htext, hnot, hn, htime, hcursor⟩
  · rintro ⟨number, id, n, time, htext, hnot, hn, htime, hcursor⟩
    rw [htext]
    exact (decodeChars_append_eq_ok_iff hnot).2 ⟨n, time, hn, htime, hcursor⟩

/-- Whether a token starts with a number of more digits than are read; its sign does not count. -/
def Overlong (token : Option String) : Prop :=
  ∃ sign digits id, token = some (String.ofList (sign ++ digits ++ ':' :: id)) ∧ IsSign sign ∧
    (∀ c ∈ digits, Text.isDigit c = true) ∧ Text.maxDigits < digits.length

/-- **A token is refused without a message of its own exactly if it is overlong.** -/
theorem decode_eq_tooManyDigits_iff {token : Option String} :
    decode token = .error .tooManyDigits ↔ Overlong token := by
  constructor
  · intro h
    cases token with
    | none => cases h
    | some text =>
      have hne : text ≠ "" := by
        rintro rfl
        cases h
      rw [decode_of_ne hne] at h
      have hchars : decodeChars text.toList = .error .tooManyDigits := by
        cases hread : decodeChars text.toList with
        | ok cursor =>
          rw [hread] at h
          cases h
        | error fault =>
          rw [hread] at h
          cases h
          rfl
      obtain ⟨sign, digits, id, hsign, hdigits, hlong, htext⟩ :=
        decodeChars_eq_tooManyDigits_iff.1 hchars
      exact ⟨sign, digits, id, by rw [← htext, String.ofList_toList], hsign, hdigits, hlong⟩
  · rintro ⟨sign, digits, id, rfl, hsign, hdigits, hlong⟩
    have hne : String.ofList (sign ++ digits ++ ':' :: id) ≠ "" := by
      intro h
      have hnil := congrArg String.toList h
      rw [String.toList_ofList] at hnil
      simp at hnil
    rw [decode_of_ne hne, String.toList_ofList,
      decodeChars_eq_tooManyDigits_iff.2 ⟨sign, digits, id, hsign, hdigits, hlong, rfl⟩]
    rfl

end WebhookRegistry.PageToken
