/-
  The decimal text of a whole number reads back.

  `integerText` writes an optional minus and the digits of the magnitude; `splitSign` takes the minus off
  again and `digitsValue` reads the digits. ASCII digits are the first run of the table of digits, so
  `digitsValue` agrees on them with the digit reader of the core library, which is known to be the
  inverse of `Nat.toDigits`.

  The written text is the shortest of a number: no plus, no zero in front of other digits, no minus on
  zero. Those are also the only texts in that form (`isShortest_iff`), since digits that do not start
  with a zero are written again as they were (`toDigits_append_of_isDigit`).
-/
import WebhookRegistry.Text.Numeral

namespace WebhookRegistry.Text

/-! ## ASCII digits -/

/-- An ASCII digit is worth its distance from the ASCII zero. -/
theorem digitValue?_of_isDigit {c : Char} (h : c.isDigit = true) :
    digitValue? c = some (c.toNat - 48) := by
  have hbounds : 48 ≤ c.toNat ∧ c.toNat ≤ 57 := Char.isDigit_iff_toNat.1 h
  have hrun : (decide (0x30 ≤ c.toNat) && decide (c.toNat < 0x30 + 10)) = true := by
    simp only [Bool.and_eq_true, decide_eq_true_eq]
    omega
  unfold digitValue? digitZeros
  rw [List.find?_cons_of_pos (by exact hrun)]
  rfl

theorem isDigit_of_ascii {c : Char} (h : c.isDigit = true) : isDigit c = true := by
  unfold isDigit
  rw [digitValue?_of_isDigit h]
  rfl

/-! ## Written digits -/

theorem isDigit_of_mem_toDigits {n : Nat} {c : Char} (h : c ∈ Nat.toDigits 10 n) :
    c.isDigit = true := Nat.isDigit_of_mem_toDigits (by decide) (by decide) h

/-- **A number is written with at least one digit**, and starts with one. -/
theorem exists_toDigits_eq_cons (n : Nat) :
    ∃ c cs, Nat.toDigits 10 n = c :: cs ∧ c.isDigit = true := by
  obtain ⟨c, cs, hd⟩ := List.exists_cons_of_ne_nil (Nat.toDigits_ne_nil (n := n) (b := 10))
  refine ⟨c, cs, hd, isDigit_of_mem_toDigits (n := n) ?_⟩
  rw [hd]
  exact List.mem_cons_self

/-- A positive number is not written with a zero in front. -/
theorem head?_toDigits_ne_zero {n : Nat} (h : 0 < n) : (Nat.toDigits 10 n).head? ≠ some '0' := by
  induction n using Nat.strongRecOn with
  | _ n ih =>
    have hchar : ∀ d : Fin 10, d.val ≠ 0 → Nat.digitChar d.val ≠ '0' := by decide
    rw [Nat.toDigits_eq_if (by decide)]
    by_cases hlt : n < 10
    · rw [if_pos hlt]
      intro heq
      exact hchar ⟨n, hlt⟩ (by show n ≠ 0; omega) (Option.some.inj heq)
    · have hrest := ih (n / 10) (by omega) (by omega)
      rw [if_neg hlt]
      cases hd : Nat.toDigits 10 (n / 10) with
      | nil => exact absurd hd Nat.toDigits_ne_nil
      | cons c cs =>
        rw [hd] at hrest
        exact hrest

theorem isEmpty_toDigits (n : Nat) : (Nat.toDigits 10 n).isEmpty = false := by
  obtain ⟨c, cs, hd, -⟩ := exists_toDigits_eq_cons n
  rw [hd]
  rfl

/-- On ASCII digits the two readers of digits agree; the induction carries the total. -/
theorem foldl_digitValue_eq_ofDigitChars :
    ∀ (cs : List Char) (total : Nat), (∀ c ∈ cs, c.isDigit = true) →
      cs.foldl (fun total c => 10 * total + (digitValue? c).getD 0) total =
        Nat.ofDigitChars 10 cs total
  | [], _, _ => by simp
  | c :: cs, total, h => by
    have hc : c.isDigit = true := h c List.mem_cons_self
    rw [List.foldl_cons, Nat.ofDigitChars_cons, digitValue?_of_isDigit hc]
    exact foldl_digitValue_eq_ofDigitChars cs _ fun d hd => h d (List.mem_cons_of_mem c hd)

/-- **Written digits read back.** -/
theorem digitsValue_toDigits (n : Nat) : digitsValue (Nat.toDigits 10 n) = n := by
  unfold digitsValue
  rw [foldl_digitValue_eq_ofDigitChars _ 0 fun c hc => isDigit_of_mem_toDigits hc]
  exact Nat.ofDigitChars_ten_toDigits

theorem all_isDigit_toDigits (n : Nat) : (Nat.toDigits 10 n).all isDigit = true := by
  rw [List.all_eq_true]
  intro c hc
  exact isDigit_of_ascii (isDigit_of_mem_toDigits hc)

/-! ## Signs -/

/-- Whether a text is a sign, or nothing. -/
def IsSign (sign : List Char) : Prop := sign = [] ∨ sign = ['+'] ∨ sign = ['-']

/-- A text that starts with no sign has none to split off. -/
theorem splitSign_cons_of_ne {c : Char} {cs : List Char} (hminus : c ≠ '-') (hplus : c ≠ '+') :
    splitSign (c :: cs) = (false, c :: cs) := by
  unfold splitSign
  split
  · next heq => exact absurd (List.cons.inj heq).1 hminus
  · next heq => exact absurd (List.cons.inj heq).1 hplus
  · rfl

/-- **A sign in front of digits** comes off and leaves them. -/
theorem splitSign_append {sign digits : List Char} (hsign : IsSign sign)
    (hdigits : ∀ c ∈ digits, isDigit c = true) :
    splitSign (sign ++ digits) = (decide (sign = ['-']), digits) := by
  rcases hsign with rfl | rfl | rfl
  · cases digits with
    | nil => rfl
    | cons c cs =>
      have hc : isDigit c = true := hdigits c List.mem_cons_self
      refine splitSign_cons_of_ne ?_ ?_
      · rintro rfl
        exact absurd hc (by decide)
      · rintro rfl
        exact absurd hc (by decide)
  · rfl
  · rfl

/-- What is split off is a sign, and nothing is lost. -/
theorem exists_sign (cs : List Char) : ∃ sign, IsSign sign ∧ cs = sign ++ (splitSign cs).2 := by
  unfold splitSign
  split
  · exact ⟨['-'], Or.inr (Or.inr rfl), rfl⟩
  · exact ⟨['+'], Or.inr (Or.inl rfl), rfl⟩
  · exact ⟨[], Or.inl rfl, rfl⟩

/-- **The sign of a written number** comes off again and leaves the digits of the magnitude. -/
theorem splitSign_integerText (n : Int) :
    splitSign (integerText n) = (decide (n < 0), Nat.toDigits 10 n.natAbs) := by
  unfold integerText
  by_cases hn : n < 0
  · rw [if_pos hn, decide_eq_true hn]
    rfl
  · rw [if_neg hn, decide_eq_false hn]
    exact splitSign_append (Or.inl rfl) fun c hc => isDigit_of_ascii (isDigit_of_mem_toDigits hc)

theorem signed_natAbs (n : Int) : signed (decide (n < 0)) n.natAbs = n := by
  unfold signed
  by_cases hn : n < 0
  · rw [decide_eq_true hn, if_pos rfl]
    omega
  · rw [decide_eq_false hn, if_neg (by decide)]
    omega

/-! ## Characters of a written number -/

/-- A written number holds digits and perhaps a minus, nothing else. -/
theorem mem_integerText {n : Int} {c : Char} (h : c ∈ integerText n) :
    c = '-' ∨ c.isDigit = true := by
  unfold integerText at h
  split at h
  · rcases List.mem_cons.1 h with rfl | h
    · exact Or.inl rfl
    · exact Or.inr (isDigit_of_mem_toDigits h)
  · exact Or.inr (isDigit_of_mem_toDigits h)

theorem ne_of_mem_integerText {n : Int} {c d : Char} (h : c ∈ integerText n) (hminus : d ≠ '-')
    (hdigit : d.isDigit = false) : c ≠ d := by
  rintro rfl
  rcases mem_integerText h with hc | hc
  · exact hminus hc
  · rw [hc] at hdigit
    cases hdigit

theorem integerText_ne_nil (n : Int) : integerText n ≠ [] := by
  unfold integerText
  split
  · exact List.cons_ne_nil _ _
  · exact Nat.toDigits_ne_nil

/-! ## The shortest form -/

/-- Whether a text is a whole number in its shortest form: a zero alone, or ASCII digits that do not
    start with a zero, perhaps behind a minus. -/
def IsShortest (cs : List Char) : Prop :=
  cs = ['0'] ∨ ∃ sign first digits, cs = sign ++ first :: digits ∧ (sign = [] ∨ sign = ['-']) ∧
    first ≠ '0' ∧ ∀ c ∈ first :: digits, c.isDigit = true

/-- The digit of an ASCII digit's value is that digit. -/
theorem digitChar_of_isDigit {c : Char} (h : c.isDigit = true) : Nat.digitChar (c.toNat - 48) = c := by
  have hbounds : 48 ≤ c.toNat ∧ c.toNat ≤ 57 := Char.isDigit_iff_toNat.1 h
  apply Char.toNat_inj.1
  rw [Nat.toNat_digitChar_of_lt_ten (by omega)]
  omega

/-- Digits behind a positive number go on with it. -/
theorem toDigits_append_of_isDigit {cs : List Char} (hcs : ∀ c ∈ cs, c.isDigit = true) {n : Nat}
    (hn : 0 < n) : Nat.toDigits 10 n ++ cs = Nat.toDigits 10 (Nat.ofDigitChars 10 cs n) := by
  induction cs generalizing n with
  | nil => rw [List.append_nil, Nat.ofDigitChars_nil]
  | cons c cs ih =>
    have hc : c.isDigit = true := hcs c List.mem_cons_self
    have hbounds : 48 ≤ c.toNat ∧ c.toNat ≤ 57 := Char.isDigit_iff_toNat.1 hc
    have hvalue : c.toNat - 48 < 10 := by omega
    have hstep : Nat.toDigits 10 n ++ [c] = Nat.toDigits 10 (10 * n + (c.toNat - 48)) := by
      rw [← Nat.toDigits_append_toDigits (by decide) hn hvalue, Nat.toDigits_of_lt_base hvalue,
        digitChar_of_isDigit hc]
    rw [List.append_cons, hstep, Nat.ofDigitChars_cons]
    exact ih (fun d hd => hcs d (List.mem_cons_of_mem c hd)) (by omega)

/-- Digits that do not start with a zero are those of a positive number. -/
theorem exists_toDigits_of_isDigit {first : Char} {digits : List Char} (hfirst : first ≠ '0')
    (hdigits : ∀ c ∈ first :: digits, c.isDigit = true) :
    ∃ n, 0 < n ∧ first :: digits = Nat.toDigits 10 n := by
  have hc : first.isDigit = true := hdigits first List.mem_cons_self
  have hbounds : 48 ≤ first.toNat ∧ first.toNat ≤ 57 := Char.isDigit_iff_toNat.1 hc
  have hne : first.toNat ≠ 48 := fun h => hfirst (Char.toNat_inj.1 h)
  have htext := toDigits_append_of_isDigit
    (fun d hd => hdigits d (List.mem_cons_of_mem first hd)) (show 0 < first.toNat - 48 by omega)
  rw [Nat.toDigits_of_lt_base (by omega), digitChar_of_isDigit hc] at htext
  refine ⟨_, Nat.pos_of_ne_zero fun hzero => ?_, htext⟩
  rw [hzero] at htext
  exact hfirst (List.cons.inj htext).1

theorem integerText_natCast (n : Nat) : integerText n = Nat.toDigits 10 n := by
  unfold integerText
  rw [if_neg (by omega), Int.natAbs_natCast]

theorem integerText_neg_natCast {n : Nat} (h : 0 < n) :
    integerText (-n) = '-' :: Nat.toDigits 10 n := by
  unfold integerText
  rw [if_pos (by omega), Int.natAbs_neg, Int.natAbs_natCast]

/-- The digits of a positive number, perhaps behind a minus, are in the shortest form. -/
theorem isShortest_toDigits {n : Nat} (h : 0 < n) {sign : List Char}
    (hsign : sign = [] ∨ sign = ['-']) : IsShortest (sign ++ Nat.toDigits 10 n) := by
  have hhead := head?_toDigits_ne_zero h
  obtain ⟨first, digits, htext, -⟩ := exists_toDigits_eq_cons n
  rw [htext] at hhead
  refine Or.inr ⟨sign, first, digits, congrArg (sign ++ ·) htext, hsign, ?_, ?_⟩
  · rintro rfl
    exact hhead rfl
  · intro c hc
    rw [← htext] at hc
    exact isDigit_of_mem_toDigits hc

/-- **Numbers are written in their shortest form**, and every text in that form is written for one. -/
theorem isShortest_iff {cs : List Char} : IsShortest cs ↔ ∃ n : Int, cs = integerText n := by
  constructor
  · rintro (rfl | ⟨sign, first, digits, rfl, hsign, hfirst, hdigits⟩)
    · exact ⟨0, rfl⟩
    · obtain ⟨n, hpos, htext⟩ := exists_toDigits_of_isDigit hfirst hdigits
      rw [htext]
      rcases hsign with rfl | rfl
      · exact ⟨n, (integerText_natCast n).symm⟩
      · exact ⟨-n, (integerText_neg_natCast hpos).symm⟩
  · rintro ⟨n, rfl⟩
    rcases Int.lt_trichotomy n 0 with hneg | rfl | hpos
    · obtain ⟨m, hm⟩ := Int.eq_ofNat_of_zero_le (show 0 ≤ -n by omega)
      obtain rfl : n = -m := by omega
      rw [integerText_neg_natCast (by omega)]
      exact isShortest_toDigits (by omega) (Or.inr rfl)
    · exact Or.inl rfl
    · obtain ⟨m, rfl⟩ := Int.eq_ofNat_of_zero_le (Int.le_of_lt hpos)
      rw [integerText_natCast]
      exact isShortest_toDigits (by omega) (Or.inl rfl)

end WebhookRegistry.Text
