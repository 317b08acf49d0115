/-
  Which texts are settings, and of which number.

  1. **Digits in groups** (`groupedDigits?_eq_some_iff`): one underscore stands between two groups, and no
     group is empty. So no underscore is at an end and no two are side by side.

  2. **Blanks around** (`trim_append`): they come off as long as what is between them starts and ends
     with other characters. No digit is a blank, whatever its script (`isBlank_of_isDigit`).

  3. **Whole settings** (`settingValue?_eq_some_iff`): blanks, a sign, digits in groups, blanks. The
     number of digits is bounded, that of the blanks and underscores is not.

  A number that is written in its decimal text is a setting of itself if it has few enough digits
  (`settingValue?_integerText`).
-/
import Mathlib.Algebra.Group.Int.Defs
import Mathlib.Algebra.Group.Nat.Defs
import WebhookRegistry.Proofs.Text.IntegerText

namespace WebhookRegistry.Text

/-! ## Digits in groups -/

/-- Whether a text is made of digits in groups, one underscore between two of them. -/
def IsGrouped (digit : Char → Bool) (text digits : List Char) : Prop :=
  ∃ groups : List (List Char), groups ≠ [] ∧ (∀ g ∈ groups, g ≠ [] ∧ ∀ c ∈ g, digit c = true) ∧
    text = ['_'].intercalate groups ∧ digits = groups.flatten

variable {digit : Char → Bool}

theorem IsGrouped.single {c : Char} (h : digit c = true) : IsGrouped digit [c] [c] :=
  ⟨[[c]], List.cons_ne_nil _ _, by simp [h], rfl, rfl⟩

/-- A digit joins the first group. -/
theorem IsGrouped.cons {c : Char} {text digits : List Char} (hc : digit c = true)
    (h : IsGrouped digit text digits) : IsGrouped digit (c :: text) (c :: digits) := by
  obtain ⟨groups, hne, hgroups, rfl, rfl⟩ := h
  cases groups with
  | nil => exact absurd rfl hne
  | cons g rest =>
    obtain ⟨⟨-, hg⟩, hrest⟩ := List.forall_mem_cons.1 hgroups
    refine ⟨(c :: g) :: rest, List.cons_ne_nil _ _, List.forall_mem_cons.2 ⟨⟨List.cons_ne_nil _ _,
      List.forall_mem_cons.2 ⟨hc, hg⟩⟩, hrest⟩, ?_, rfl⟩
    cases rest <;> simp

/-- A digit with an underscore behind it is a group of its own. -/
theorem IsGrouped.gap {c : Char} {text digits : List Char} (hc : digit c = true)
    (h : IsGrouped digit text digits) : IsGrouped digit (c :: '_' :: text) (c :: digits) := by
  obtain ⟨groups, hne, hgroups, rfl, rfl⟩ := h
  cases groups with
  | nil => exact absurd rfl hne
  | cons g rest =>
    refine ⟨[c] :: g :: rest, List.cons_ne_nil _ _, List.forall_mem_cons.2 ⟨?_, hgroups⟩, ?_, rfl⟩
    · exact ⟨List.cons_ne_nil _ _, by simp [hc]⟩
    · rw [List.intercalate_cons_cons]
      rfl

/-- What is read as digits in groups is such a text; the induction is on the reading. -/
theorem isGrouped_of_groupedDigits? {text digits : List Char}
    (h : groupedDigits? digit text = some digits) : IsGrouped digit text digits := by
  fun_induction groupedDigits? digit text generalizing digits with
  | case1 => cases h
  | case2 c hc =>
    cases h
    exact .single hc
  | case3 => cases h
  | case4 c rest hc ih =>
    obtain ⟨more, hmore, rfl⟩ := Option.map_eq_some_iff.1 h
    exact (ih hmore).gap hc
  | case5 => cases h
  | case6 c rest _ _ hc ih =>
    obtain ⟨more, hmore, rfl⟩ := Option.map_eq_some_iff.1 h
    exact (ih hmore).cons hc
  | case7 => cases h

/-- A digit in front of a group is read with it. -/
theorem groupedDigits?_cons_cons {c d : Char} {rest : List Char} (hc : digit c = true) (hd : d ≠ '_') :
    groupedDigits? digit (c :: d :: rest) = (groupedDigits? digit (d :: rest)).map (c :: ·) := by
  rw [groupedDigits?]
  · rw [if_pos hc]
  · intro h
    cases h
  · intro tail h
    cases h
    exact hd rfl

/-- A group alone is read as its digits. -/
theorem groupedDigits?_group (hgap : digit '_' = false) {g : List Char} (hne : g ≠ [])
    (hg : ∀ c ∈ g, digit c = true) : groupedDigits? digit g = some g := by
  induction g with
  | nil => exact absurd rfl hne
  | cons c g ih =>
    obtain ⟨hc, hg⟩ := List.forall_mem_cons.1 hg
    cases g with
    | nil => rw [groupedDigits?, if_pos hc]
    | cons d g =>
      have hd : d ≠ '_' := fun heq => by simp [heq, hgap] at hg
      rw [groupedDigits?_cons_cons hc hd, ih (List.cons_ne_nil _ _) hg]
      rfl

/-- **A group with an underscore behind it** is read, and then what follows. -/
theorem groupedDigits?_group_append (hgap : digit '_' = false) {g : List Char} (hne : g ≠ [])
    (hg : ∀ c ∈ g, digit c = true) (rest : List Char) :
    groupedDigits? digit (g ++ '_' :: rest) = (groupedDigits? digit rest).map (g ++ ·) := by
  induction g with
  | nil => exact absurd rfl hne
  | cons c g ih =>
    obtain ⟨hc, hg⟩ := List.forall_mem_cons.1 hg
    cases g with
    | nil =>
      show groupedDigits? digit (c :: '_' :: rest) = _
      rw [groupedDigits?, if_pos hc]
      rfl
    | cons d g =>
      have hd : d ≠ '_' := fun heq => by simp [heq, hgap] at hg
      show groupedDigits? digit (c :: d :: (g ++ '_' :: rest)) = _
      rw [groupedDigits?_cons_cons hc hd]
      show Option.map _ (groupedDigits? digit (d :: g ++ '_' :: rest)) = _
      rw [ih (List.cons_ne_nil _ _) hg, Option.map_map]
      rfl

/-- **Digits are read in groups**, and nothing else is. -/
theorem groupedDigits?_eq_some_iff (hgap : digit '_' = false) {text digits : List Char} :
    groupedDigits? digit text = some digits ↔ IsGrouped digit text digits := by
  refine ⟨isGrouped_of_groupedDigits?, ?_⟩
  rintro ⟨groups, hne, hgroups, rfl, rfl⟩
  induction groups with
  | nil => exact absurd rfl hne
  | cons g rest ih =>
    obtain ⟨⟨hgne, hg⟩, hrest⟩ := List.forall_mem_cons.1 hgroups
    cases rest with
    | nil =>
      rw [List.intercalate_singleton, List.flatten_singleton]
      exact groupedDigits?_group hgap hgne hg
    | cons g' rest =>
      rw [List.intercalate_cons_cons, List.append_assoc, List.singleton_append,
        groupedDigits?_group_append hgap hgne hg, ih (List.cons_ne_nil _ _) hrest]
      rfl

/-! ## Blanks around -/

/-- What is trimmed off are blanks, and nothing is lost. -/
theorem exists_trim (cs : List Char) :
    ∃ before after, cs = before ++ trim cs ++ after ∧ ∀ c ∈ before ++ after, isBlank c = true := by
  refine ⟨cs.takeWhile isBlank, ((cs.dropWhile isBlank).reverse.takeWhile isBlank).reverse, ?_, ?_⟩
  · unfold trim
    rw [List.append_assoc, ← List.reverse_append, List.takeWhile_append_dropWhile,
      List.reverse_reverse, List.takeWhile_append_dropWhile]
  · intro c hc
    rcases List.mem_append.1 hc with hc | hc
    · exact List.all_eq_true.1 List.all_takeWhile c hc
    · exact List.all_eq_true.1 List.all_takeWhile c (List.mem_reverse.1 hc)

/-- **Blanks around a text are trimmed off** if it starts and ends with other characters. -/
theorem trim_append {before after core : List Char} (hblank : ∀ c ∈ before ++ after, isBlank c = true)
    (hfirst : ∀ c ∈ core.head?, isBlank c = false) (hlast : ∀ c ∈ core.getLast?, isBlank c = false)
    (hne : core ≠ []) : trim (before ++ core ++ after) = core := by
  have hbefore : ∀ c ∈ before, isBlank c = true := fun c hc => hblank c (List.mem_append_left _ hc)
  have hafter : ∀ c ∈ after.reverse, isBlank c = true :=
    fun c hc => hblank c (List.mem_append_right _ (List.mem_reverse.1 hc))
  have hdrop : (before ++ core ++ after).dropWhile isBlank = core ++ after := by
    rw [List.append_assoc, List.dropWhile_append_of_pos hbefore]
    cases core with
    | nil => exact absurd rfl hne
    | cons c cs => exact List.dropWhile_cons_of_neg (by simp [hfirst c rfl])
  have hreverse : (after.reverse ++ core.reverse).dropWhile isBlank = core.reverse := by
    rw [List.dropWhile_append_of_pos hafter]
    cases hcore : core.reverse with
    | nil => rfl
    | cons c cs =>
      have hc : core.getLast? = some c := by rw [← List.head?_reverse, hcore, List.head?_cons]
      exact List.dropWhile_cons_of_neg (by simp [hlast c hc])
  unfold trim
  rw [hdrop, List.reverse_append, hreverse, List.reverse_reverse]

/-- **No digit is a blank**, whatever its script: the table has no zero that is near one. -/
theorem isBlank_of_isDigit {c : Char} (h : isDigit c = true) : isBlank c = false := by
  have htable : ∀ z ∈ digitZeros, ∀ k < 10, isBlank (Char.ofNat (z + k)) = false := by decide +kernel
  unfold isDigit digitValue? at h
  rw [Option.isSome_map] at h
  obtain ⟨z, hz⟩ := Option.isSome_iff_exists.1 h
  have hrun := List.find?_some hz
  rw [Bool.and_eq_true, decide_eq_true_eq, decide_eq_true_eq] at hrun
  have hc := htable z (List.mem_of_find?_eq_some hz) (c.toNat - z) (by omega)
  rw [Nat.add_sub_cancel' hrun.1, Char.ofNat_toNat] at hc
  exact hc

/-! ## Whole settings -/

/-- Whether a text is a setting, and of which number: blanks, a sign or none, digits of any script in
    groups, and blanks again. -/
def IsSetting (text : List Char) (n : Int) : Prop :=
  ∃ before sign body digits after, text = before ++ (sign ++ body) ++ after ∧
    (∀ c ∈ before ++ after, isBlank c = true) ∧ IsSign sign ∧ IsGrouped isDigit body digits ∧
    digits.length ≤ maxDigits ∧ n = signed (decide (sign = ['-'])) (digitsValue digits)

/-- Digits in groups start and end with a digit. -/
theorem IsGrouped.ends {body digits : List Char} (h : IsGrouped isDigit body digits) :
    ∃ first last, body.head? = some first ∧ body.getLast? = some last ∧ isDigit first = true ∧
      isDigit last = true := by
  obtain ⟨groups, hne, hgroups, rfl, -⟩ := h
  induction groups with
  | nil => exact absurd rfl hne
  | cons g rest ih =>
    obtain ⟨⟨hgne, hg⟩, hrest⟩ := List.forall_mem_cons.1 hgroups
    have hhead := List.head?_eq_some_head hgne
    have hfirst : isDigit (g.head hgne) = true := hg _ (List.head_mem hgne)
    cases rest with
    | nil =>
      rw [List.intercalate_singleton]
      exact ⟨_, _, hhead, List.getLast?_eq_some_getLast hgne, hfirst, hg _ (List.getLast_mem hgne)⟩
    | cons g' rest =>
      obtain ⟨-, last, -, hlast, -, hdigit⟩ := ih (List.cons_ne_nil _ _) hrest
      rw [List.intercalate_cons_cons]
      refine ⟨_, last, ?_, ?_, hfirst, hdigit⟩
      · rw [List.append_assoc, List.head?_append, hhead]
        rfl
      · rw [List.getLast?_append, hlast]
        rfl

/-- A sign comes off digits in groups as it comes off digits. -/
theorem splitSign_of_isGrouped {sign body digits : List Char} (hsign : IsSign sign)
    (h : IsGrouped isDigit body digits) : splitSign (sign ++ body) = (decide (sign = ['-']), body) := by
  obtain ⟨first, last, hfirst, -, hdigit, -⟩ := h.ends
  rcases hsign with rfl | rfl | rfl
  · cases body with
    | nil => cases hfirst
    | cons c cs =>
      cases hfirst
      refine splitSign_cons_of_ne ?_ ?_
      · rintro rfl
        exact absurd hdigit (by decide)
      · rintro rfl
        exact absurd hdigit (by decide)
  · rfl
  · rfl

/-- A sign with digits in groups is trimmed of nothing but the blanks around it. -/
theorem trim_of_isGrouped {before sign body digits after : List Char}
    (hblank : ∀ c ∈ before ++ after, isBlank c = true) (hsign : IsSign sign)
    (h : IsGrouped isDigit body digits) : trim (before ++ (sign ++ body) ++ after) = sign ++ body := by
  obtain ⟨first, last, hfirst, hlast, hdigitFirst, hdigitLast⟩ := h.ends
  refine trim_append hblank ?_ ?_ ?_
  · intro c hc
    rcases hsign with rfl | rfl | rfl
    · rw [List.nil_append, hfirst] at hc
      cases hc
      exact isBlank_of_isDigit hdigitFirst
    · cases hc
      decide
    · cases hc
      decide
  · intro c hc
    rw [List.getLast?_append, hlast] at hc
    cases hc
    exact isBlank_of_isDigit hdigitLast
  · intro hnil
    rw [(List.append_eq_nil_iff.1 hnil).2] at hfirst
    cases hfirst

/-- **Settings are read, and nothing else is.** -/
theorem settingValue?_eq_some_iff {text : String} {n : Int} :
    settingValue? text = some n ↔ IsSetting text.toList n := by
  have hgap : isDigit '_' = false := by decide
  constructor
  · intro h
    obtain ⟨before, after, htext, hblank⟩ := exists_trim text.toList
    obtain ⟨sign, hsign, hcore⟩ := exists_sign (trim text.toList)
    unfold settingValue? at h
    dsimp only at h
    cases hdigits : groupedDigits? isDigit (splitSign (trim text.toList)).2 with
    | none =>
      rw [hdigits] at h
      cases h
    | some digits =>
      rw [hdigits] at h
      dsimp only at h
      have hgrouped := (groupedDigits?_eq_some_iff hgap).1 hdigits
      by_cases hfew : digits.length ≤ maxDigits
      · rw [if_pos hfew] at h
        refine ⟨before, sign, _, digits, after, by rw [← hcore, ← htext], hblank, hsign, hgrouped,
          hfew, ?_⟩
        have hsplit := splitSign_of_isGrouped hsign hgrouped
        rw [← hcore] at hsplit
        rw [← Option.some.inj h, congrArg Prod.fst hsplit]
      · rw [if_neg hfew] at h
        cases h
  · rintro ⟨before, sign, body, digits, after, htext, hblank, hsign, hgrouped, hfew, rfl⟩
    unfold settingValue?
    rw [htext, trim_of_isGrouped hblank hsign hgrouped, splitSign_of_isGrouped hsign hgrouped]
    dsimp only
    rw [(groupedDigits?_eq_some_iff hgap).2 hgrouped]
    dsimp only
    rw [if_pos hfew]

/-! ## Written numbers -/

/-- A magnitude has few enough digits exactly if it is below the power of ten that has one more. -/
theorem length_toDigits_le_maxDigits_iff {n : Nat} :
    (Nat.toDigits 10 n).length ≤ maxDigits ↔ n < 10 ^ maxDigits :=
  Nat.length_toDigits_le_iff (by decide) (by decide)

theorem isShort_iff {n : Int} : isShort n = true ↔ n.natAbs < 10 ^ maxDigits :=
  decide_eq_true_iff.trans length_toDigits_le_maxDigits_iff

/-- The power of ten with one digit too many is the first integer that is too long. -/
theorem isShort_ten_pow : isShort (10 ^ maxDigits) = false := by
  have hbase : (10 : Int).natAbs = 10 := rfl
  rw [← Bool.not_eq_true, isShort_iff, Int.natAbs_pow, hbase]
  exact Nat.lt_irrefl _

/-- **A written number is a setting of itself** if it has few enough digits, and else is none. -/
theorem settingValue?_integerText (n : Int) :
    settingValue? (String.ofList (integerText n)) =
      if isShort n then some n else none := by
  have hdigits : ∀ c ∈ Nat.toDigits 10 n.natAbs, isDigit c = true :=
    fun c hc => isDigit_of_ascii (isDigit_of_mem_toDigits hc)
  have hgrouped : groupedDigits? isDigit (Nat.toDigits 10 n.natAbs) = some (Nat.toDigits 10 n.natAbs) :=
    groupedDigits?_group (by decide) Nat.toDigits_ne_nil hdigits
  obtain ⟨sign, hsign, htext⟩ := exists_sign (integerText n)
  rw [splitSign_integerText] at htext
  have htrim : trim ([] ++ (sign ++ Nat.toDigits 10 n.natAbs) ++ []) = sign ++ Nat.toDigits 10 n.natAbs :=
    trim_of_isGrouped (fun c hc => absurd hc List.not_mem_nil) hsign
      (isGrouped_of_groupedDigits? hgrouped)
  rw [List.nil_append, List.append_nil, ← htext] at htrim
  unfold settingValue?
  rw [String.toList_ofList, htrim, splitSign_integerText]
  dsimp only
  rw [hgrouped]
  dsimp only
  rw [digitsValue_toDigits, signed_natAbs]
  simp only [isShort, decide_eq_true_eq]

end WebhookRegistry.Text
