/-
  Line breaks in texts.

  A text is one line if it has no line feed and no carriage return. What the other modules write is looked
  at here character by character:

  1. **Digits, quoted texts and numbers are one line** (`isOneLine_quoted`, `isOneLine_text`): what is
     quoted has its line breaks escaped, and a number has digits, signs and a few letters.

  2. **Capitals keep line breaks** (`occurrences_upper`): no other character has one in its capital form.

  Texts that are put together have the line breaks of their parts (`occurrences_append`,
  `occurrences_intercalate`).
-/
import WebhookRegistry.Number.Shortest
import WebhookRegistry.Proofs.Text.IntegerText
import WebhookRegistry.Text.Quoted
import WebhookRegistry.Text.Uppercase

namespace WebhookRegistry.Text

/-! ## Lines -/

/-- Whether a character breaks a line: a line feed or a carriage return. -/
def IsBreak (c : Char) : Prop := c = '\n' ∨ c = '\r'

instance : DecidablePred IsBreak := fun c => inferInstanceAs (Decidable (c = '\n' ∨ c = '\r'))

/-- Whether none of several characters breaks a line. -/
def Unbroken (cs : List Char) : Prop := ∀ c ∈ cs, ¬ IsBreak c

-- Said outright, since a search may find the instance that goes through all characters that there are.
instance (cs : List Char) : Decidable (Unbroken cs) := List.decidableBAll _ cs

/-- Whether a text is one line. -/
def IsOneLine (text : String) : Prop := Unbroken text.toList

instance (text : String) : Decidable (IsOneLine text) :=
  inferInstanceAs (Decidable (Unbroken text.toList))

/-- How often a character stands in a text. -/
def occurrences (c : Char) (text : String) : Nat := text.toList.count c

/-- How often a character stands in several texts. -/
def total (c : Char) : List String → Nat
  | [] => 0
  | text :: rest => occurrences c text + total c rest

variable {c : Char} {cs : List Char} {s t : String}

theorem unbroken_cons_iff : Unbroken (c :: cs) ↔ ¬ IsBreak c ∧ Unbroken cs := List.forall_mem_cons

theorem unbroken_singleton_iff : Unbroken [c] ↔ ¬ IsBreak c := List.forall_mem_singleton

theorem unbroken_append_iff {others : List Char} :
    Unbroken (cs ++ others) ↔ Unbroken cs ∧ Unbroken others := List.forall_mem_append

/-- Repeating a character that breaks no line. -/
theorem unbroken_replicate (n : Nat) (h : ¬ IsBreak c) : Unbroken (List.replicate n c) := by
  intro d hd
  rwa [List.eq_of_mem_replicate hd]

theorem isOneLine_iff : IsOneLine s ↔ ∀ c, IsBreak c → occurrences c s = 0 := by
  unfold IsOneLine Unbroken occurrences
  constructor
  · intro h c hc
    exact List.count_eq_zero.2 fun hmem => h c hmem hc
  · intro h c hmem hc
    exact List.count_eq_zero.1 (h c hc) hmem

/-- One line has no line break. -/
theorem IsOneLine.occurrences_eq_zero (h : IsOneLine s) (hc : IsBreak c) : occurrences c s = 0 :=
  isOneLine_iff.1 h c hc

theorem isOneLine_ofList_iff : IsOneLine (String.ofList cs) ↔ Unbroken cs := by
  unfold IsOneLine
  rw [String.toList_ofList]

theorem isOneLine_append_iff : IsOneLine (s ++ t) ↔ IsOneLine s ∧ IsOneLine t := by
  unfold IsOneLine
  rw [String.toList_append, unbroken_append_iff]

theorem occurrences_append (c : Char) (s t : String) :
    occurrences c (s ++ t) = occurrences c s + occurrences c t := by
  unfold occurrences
  rw [String.toList_append, List.count_append]

theorem total_nil (c : Char) : total c [] = 0 := rfl

theorem total_cons (c : Char) (s : String) (texts : List String) :
    total c (s :: texts) = occurrences c s + total c texts := rfl

theorem total_append (c : Char) (texts others : List String) :
    total c (texts ++ others) = total c texts + total c others := by
  induction texts with
  | nil => exact (Nat.zero_add _).symm
  | cons text rest ih => rw [List.cons_append, total_cons, total_cons, ih, Nat.add_assoc]

theorem total_eq_zero_iff {texts : List String} :
    total c texts = 0 ↔ ∀ text ∈ texts, occurrences c text = 0 := by
  induction texts with
  | nil => simp [total]
  | cons first rest ih => rw [total_cons, Nat.add_eq_zero_iff, ih, List.forall_mem_cons]

/-- **Texts are all one line** if and only if no line break is in any of them. -/
theorem forall_isOneLine_iff {texts : List String} :
    (∀ text ∈ texts, IsOneLine text) ↔ ∀ c, IsBreak c → total c texts = 0 := by
  constructor
  · intro h c hc
    exact total_eq_zero_iff.2 fun text htext => (h text htext).occurrences_eq_zero hc
  · intro h text htext
    exact isOneLine_iff.2 fun c hc => total_eq_zero_iff.1 (h c hc) text htext

/-- **Texts that are joined** have what their parts have, if the separator has none. -/
theorem occurrences_intercalate (h : occurrences c s = 0) (texts : List String) :
    occurrences c (s.intercalate texts) = total c texts := by
  have hjoin : ∀ texts : List String, occurrences c (s.intercalate texts) =
      (s.toList.intercalate (texts.map String.toList)).count c := by
    intro texts
    unfold occurrences
    rw [String.toList_intercalate]
  induction texts with
  | nil => rfl
  | cons first rest ih =>
    rw [hjoin] at ih ⊢
    rw [total_cons]
    cases rest with
    | nil =>
      rw [List.map_singleton, List.intercalate_singleton]
      rfl
    | cons second rest =>
      unfold occurrences at h ⊢
      rw [List.map_cons, List.map_cons, List.intercalate_cons_cons, List.count_append,
        List.count_append, h, Nat.add_zero, ← List.map_cons, ih]

theorem isOneLine_intercalate (hs : IsOneLine s) {texts : List String}
    (h : ∀ text ∈ texts, IsOneLine text) : IsOneLine (s.intercalate texts) := by
  rw [isOneLine_iff]
  intro c hc
  rw [occurrences_intercalate (hs.occurrences_eq_zero hc)]
  exact forall_isOneLine_iff.1 h c hc

/-- A text that is joined to others stands in what comes out. -/
theorem infix_intercalate {texts : List String} (h : t ∈ texts) :
    t.toList <:+: (s.intercalate texts).toList := by
  induction texts with
  | nil => exact absurd h List.not_mem_nil
  | cons first rest ih =>
    cases rest with
    | nil =>
      refine ⟨[], [], ?_⟩
      rw [List.nil_append, List.append_nil, String.intercalate_singleton, List.mem_singleton.1 h]
    | cons second rest =>
      rw [String.intercalate_cons_cons, String.toList_append, String.toList_append]
      rcases List.mem_cons.1 h with rfl | h
      · rw [List.append_assoc]
        exact (List.prefix_append _ _).isInfix
      · exact List.infix_append_of_infix_right (ih h)

/-! ## Digits and quoted texts -/

/-- No digit of any base breaks a line. -/
theorem not_isBreak_digitChar (n : Nat) : ¬ IsBreak (Nat.digitChar n) := by
  have hall : ∀ n < 16, ¬ IsBreak (Nat.digitChar n) := by decide
  rcases Nat.lt_or_ge n 16 with hlt | hge
  · exact hall n hlt
  · unfold Nat.digitChar
    repeat rw [if_neg (by omega)]
    decide

/-- A number is written with digits. -/
theorem unbroken_toDigits {b : Nat} (hb : 1 < b) (n : Nat) : Unbroken (Nat.toDigits b n) := by
  induction n using Nat.strongRecOn with
  | _ n ih =>
    have hlast : Unbroken [Nat.digitChar (n % b)] :=
      unbroken_singleton_iff.2 (not_isBreak_digitChar (n % b))
    rw [Nat.toDigits_eq_if hb]
    split
    · next hsmall => rwa [Nat.mod_eq_of_lt hsmall] at hlast
    · exact unbroken_append_iff.2 ⟨ih (n / b) (Nat.div_lt_self (by omega) hb), hlast⟩

theorem unbroken_hexDigits (width n : Nat) : Unbroken (hexDigits width n) := by
  unfold hexDigits
  exact unbroken_append_iff.2
    ⟨unbroken_replicate _ (by decide), unbroken_toDigits (by decide) n⟩

theorem unbroken_codePointEscape (c : Char) : Unbroken (codePointEscape c) := by
  have hescape : ∀ mark width, ¬ IsBreak mark →
      Unbroken ('\\' :: mark :: hexDigits width c.toNat) := fun _ width hmark =>
    unbroken_cons_iff.2 ⟨by decide, unbroken_cons_iff.2 ⟨hmark, unbroken_hexDigits width _⟩⟩
  unfold codePointEscape
  dsimp only
  split
  · exact hescape 'x' 2 (by decide)
  · split
    · exact hescape 'u' 4 (by decide)
    · exact hescape 'U' 8 (by decide)

/-- A character that breaks a line cannot be printed. -/
theorem not_isBreak_of_isPrintable (h : isPrintable c = true) : ¬ IsBreak c := by
  rintro (rfl | rfl)
  · exact absurd h (by decide)
  · exact absurd h (by decide)

/-- **Between quotes no line is broken**: line breaks have escapes. -/
theorem unbroken_quotedChar {quote : Char} (hquote : ¬ IsBreak quote) (c : Char) :
    Unbroken (quotedChar quote c) := by
  unfold quotedChar
  split
  · next hc =>
    have hbreak : ¬ IsBreak c := by
      rcases hc with rfl | rfl
      · exact hquote
      · decide
    exact unbroken_cons_iff.2 ⟨by decide, unbroken_singleton_iff.2 hbreak⟩
  · split
    · decide
    · split
      · decide
      · split
        · decide
        · split
          · next hprintable =>
            exact unbroken_singleton_iff.2 (not_isBreak_of_isPrintable hprintable)
          · exact unbroken_codePointEscape c

/-- **A quoted text is one line.** -/
theorem isOneLine_quoted (text : String) : IsOneLine (quoted text) := by
  have hbetween : ∀ quote, ¬ IsBreak quote →
      IsOneLine (String.ofList (quote :: (text.toList.flatMap (quotedChar quote) ++ [quote]))) := by
    intro quote hquote
    rw [isOneLine_ofList_iff, unbroken_cons_iff, unbroken_append_iff, unbroken_singleton_iff]
    refine ⟨hquote, fun d hd => ?_, hquote⟩
    obtain ⟨c, -, hd⟩ := List.mem_flatMap.1 hd
    exact unbroken_quotedChar hquote c d hd
  unfold quoted
  dsimp only
  split
  · exact hbetween '"' (by decide)
  · exact hbetween '\'' (by decide)

/-- A whole number is one line. -/
theorem isOneLine_integerText (n : Int) : IsOneLine (String.ofList (integerText n)) := by
  rw [isOneLine_ofList_iff]
  rintro c hc (rfl | rfl)
  · exact ne_of_mem_integerText hc (by decide) (by decide) rfl
  · exact ne_of_mem_integerText hc (by decide) (by decide) rfl

/-! ## Capitals -/

/-- A code point beyond the controls is that of no line break. -/
theorem not_isBreak_ofNat {n : Nat} (h : 0x20 ≤ n) : ¬ IsBreak (Char.ofNat n) := by
  by_cases hvalid : n.isValidChar
  · have hcode : (Char.ofNat n).toNat = n := by
      unfold Char.ofNat
      rw [dif_pos hvalid]
      rfl
    rintro (heq | heq)
    · rw [heq, show '\n'.toNat = 10 from rfl] at hcode
      omega
    · rw [heq, show '\r'.toNat = 13 from rfl] at hcode
      omega
  · unfold Char.ofNat
    rw [dif_neg hvalid]
    decide

/-- The capitals of a run are beyond the controls. -/
theorem le_upperPoint {n : Nat} (h : 0x20 ≤ n) : 0x20 ≤ upperPoint n := by
  have hruns : ∀ run ∈ upperRuns, (0x20 : Int) ≤ (run.1 : Int) + run.2.2.2 := by
    decide +kernel
  unfold upperPoint
  dsimp only
  split
  · next first count step shift hrun =>
    have hmem := hruns _ (List.mem_of_find?_eq_some hrun)
    have hfound := List.find?_some hrun
    simp only [Bool.and_eq_true, decide_eq_true_eq] at hfound
    dsimp only at hmem
    omega
  · exact h

/-- **Only a line break has itself in its capital form**, once. -/
theorem count_upperChar (hc : IsBreak c) (d : Char) :
    (upperChar d).count c = if d = c then 1 else 0 := by
  by_cases hascii : d.toNat < 0x80
  · have hfeed : ∀ n < 128, (upperChar (Char.ofNat n)).count '\n' =
        if Char.ofNat n = '\n' then 1 else 0 := by decide +kernel
    have hreturn : ∀ n < 128, (upperChar (Char.ofNat n)).count '\r' =
        if Char.ofNat n = '\r' then 1 else 0 := by decide +kernel
    rw [← Char.ofNat_toNat d]
    rcases hc with rfl | rfl
    · exact hfeed d.toNat hascii
    · exact hreturn d.toNat hascii
  · have hne : d ≠ c := by
      rintro rfl
      rcases hc with rfl | rfl <;> exact hascii (by decide)
    have hexpansions : ∀ expansion ∈ upperExpansions, ∀ n ∈ expansion.2, 0x20 ≤ n := by decide
    rw [if_neg hne, List.count_eq_zero]
    intro hmem
    unfold upperChar at hmem
    dsimp only at hmem
    rw [if_neg hascii] at hmem
    split at hmem
    · next points hfound =>
      obtain ⟨n, hn, rfl⟩ := List.mem_map.1 hmem
      exact not_isBreak_ofNat (hexpansions _ (List.mem_of_find?_eq_some hfound) n hn) hc
    · rw [List.mem_singleton.1 hmem] at hc
      exact not_isBreak_ofNat (le_upperPoint (by omega)) hc

/-- **A text in capitals has the line breaks of the text.** -/
theorem occurrences_upper (hc : IsBreak c) (text : String) :
    occurrences c (upper text) = occurrences c text := by
  unfold occurrences upper
  rw [String.toList_ofList]
  induction text.toList with
  | nil => rfl
  | cons d rest ih =>
    rw [List.flatMap_cons, List.count_append, ih, count_upperChar hc, List.count_cons, Nat.add_comm]
    simp only [beq_iff_eq]

end WebhookRegistry.Text

namespace WebhookRegistry.Binary64

open Text

/-! ## Numbers of the binary format -/

theorem unbroken_shortestDigits (mantissa : Nat) (exponent : Int) :
    Unbroken (shortestDigits mantissa exponent).1 := by
  unfold shortestDigits
  dsimp only
  intro c hc
  have hmem := (List.dropWhile_sublist _).subset (List.mem_reverse.1 hc)
  exact unbroken_toDigits (by decide) _ c (List.mem_reverse.1 hmem)

variable {digits : List Char} {point : Int}

theorem unbroken_take (h : Unbroken digits) (n : Nat) : Unbroken (digits.take n) :=
  fun c hc => h c (List.mem_of_mem_take hc)

theorem unbroken_drop (h : Unbroken digits) (n : Nat) : Unbroken (digits.drop n) :=
  fun c hc => h c (List.mem_of_mem_drop hc)

theorem unbroken_positional (h : Unbroken digits) : Unbroken (positional digits point) := by
  have hzeros : ∀ n, Unbroken (List.replicate n '0') := fun n => unbroken_replicate n (by decide)
  unfold positional
  split
  · rw [unbroken_cons_iff, unbroken_cons_iff, unbroken_append_iff]
    exact ⟨by decide, by decide, hzeros _, h⟩
  · dsimp only
    rw [unbroken_append_iff, unbroken_append_iff, unbroken_cons_iff]
    refine ⟨⟨unbroken_take h _, hzeros _⟩, by decide, ?_⟩
    split
    · decide
    · exact unbroken_drop h _

theorem unbroken_exponentText (exponent : Int) : Unbroken (exponentText exponent) := by
  unfold exponentText
  dsimp only
  rw [unbroken_cons_iff, unbroken_cons_iff, unbroken_append_iff]
  refine ⟨by decide, ?_, unbroken_replicate _ (by decide), unbroken_toDigits (by decide) _⟩
  split <;> decide

theorem unbroken_scientific (h : Unbroken digits) : Unbroken (scientific digits point) := by
  unfold scientific
  dsimp only
  rw [unbroken_append_iff, unbroken_append_iff]
  refine ⟨⟨unbroken_take h 1, ?_⟩, unbroken_exponentText _⟩
  split
  · exact fun c hc => absurd hc List.not_mem_nil
  · exact unbroken_cons_iff.2 ⟨by decide, unbroken_drop h 1⟩

/-- **The text of a number is one line.** -/
theorem isOneLine_text (x : Binary64) : IsOneLine x.text := by
  cases x with
  | nan => decide
  | infinite negative => cases negative <;> decide
  | finite negative mantissa exponent =>
    have hdigits := unbroken_shortestDigits mantissa exponent
    have hsigned : ∀ body : List Char, Unbroken body →
        IsOneLine (String.ofList (if negative then '-' :: body else body)) := by
      intro body hbody
      rw [isOneLine_ofList_iff]
      split
      · exact unbroken_cons_iff.2 ⟨by decide, hbody⟩
      · exact hbody
    unfold text
    dsimp only
    refine hsigned _ ?_
    split
    · decide
    · split
      · exact unbroken_positional hdigits
      · exact unbroken_scientific hdigits

end WebhookRegistry.Binary64
