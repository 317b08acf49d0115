/-
  Written values read back.

  The statement is about a value in front of any further text, `readValue (write v ++ rest)`, because that
  is how the readers call each other. Two things are asked:

  1. the value is within the limits of the reader (`Fits`): it nests no deeper than allowed, its integers
     have no more digits than allowed, and it holds no number with a fraction or exponent;

  2. the rest does not go on where an integer ends (`EndsNumber`), which holds of a comma, of a closing
     bracket or brace, and of nothing.

  Fuel is counted in characters: two for each character of the written value are enough, since every
  call of a reader that is not the last one has a bracket, comma or colon of its own to consume.
-/
import WebhookRegistry.Proofs.Json.Strings
import WebhookRegistry.Proofs.Text.IntegerText

namespace WebhookRegistry.Json

/-! ## Values within limits -/

mutual

/-- Whether a value can be read back: no deeper than `depth`, integers of at most `width` digits, and no
    number that is not whole by its form. -/
def Fits (width : Nat) : Json → Nat → Prop
  | .int n, _ => (Nat.toDigits 10 n.natAbs).length ≤ width
  | .float _, _ => False
  | .arr items, depth => 0 < depth ∧ FitItems width items (depth - 1)
  | .obj members, depth => 0 < depth ∧ FitMembers width members (depth - 1)
  | _, _ => True

/-- Whether all items of an array can be read back. -/
def FitItems (width : Nat) : List Json → Nat → Prop
  | [], _ => True
  | x :: rest, depth => Fits width x depth ∧ FitItems width rest depth

/-- Whether the values of all members of an object can be read back. -/
def FitMembers (width : Nat) : List (String × Json) → Nat → Prop
  | [], _ => True
  | (_, v) :: rest, depth => Fits width v depth ∧ FitMembers width rest depth

end

mutual

/-- What can be read at a depth can be read at a greater one. -/
theorem Fits.mono {width : Nat} : ∀ {v : Json} {depth depth' : Nat}, Fits width v depth →
    depth ≤ depth' → Fits width v depth'
  | .null, _, _, _, _ => trivial
  | .bool _, _, _, _, _ => trivial
  | .int _, _, _, h, _ => h
  | .float _, _, _, h, _ => h.elim
  | .str _, _, _, _, _ => trivial
  | .arr _, _, _, ⟨hpos, hitems⟩, hle => ⟨by omega, hitems.mono (by omega)⟩
  | .obj _, _, _, ⟨hpos, hmembers⟩, hle => ⟨by omega, hmembers.mono (by omega)⟩

theorem FitItems.mono {width : Nat} : ∀ {xs : List Json} {depth depth' : Nat},
    FitItems width xs depth → depth ≤ depth' → FitItems width xs depth'
  | [], _, _, _, _ => trivial
  | _ :: _, _, _, ⟨hx, hxs⟩, hle => ⟨hx.mono hle, hxs.mono hle⟩

theorem FitMembers.mono {width : Nat} : ∀ {members : List (String × Json)} {depth depth' : Nat},
    FitMembers width members depth → depth ≤ depth' → FitMembers width members depth'
  | [], _, _, _, _ => trivial
  | (_, _) :: _, _, _, ⟨hv, hmembers⟩, hle => ⟨hv.mono hle, hmembers.mono hle⟩

end

/-- Whether a text does not go on where an integer has ended. -/
def EndsNumber : List Char → Prop
  | [] => True
  | c :: _ => c.isDigit = false ∧ c ≠ '.' ∧ c ≠ 'e' ∧ c ≠ 'E'

/-! ## Integers -/

theorem digitSpan_append {digits rest : List Char} (hd : ∀ c ∈ digits, c.isDigit = true)
    (hr : EndsNumber rest) : digitSpan (digits ++ rest) = (digits, rest) := by
  unfold digitSpan
  rw [List.takeWhile_append_of_pos hd, List.dropWhile_append_of_pos hd]
  cases rest with
  | nil => simp
  | cons c rest =>
    have hc : ¬ c.isDigit = true := by
      rw [hr.1]
      decide
    rw [List.takeWhile_cons_of_neg hc, List.dropWhile_cons_of_neg hc, List.append_nil]

/-- A zero in front of a written number is the whole number. -/
theorem length_toDigits_of_head {n : Nat} (h : (Nat.toDigits 10 n).head? = some '0') :
    (Nat.toDigits 10 n).length = 1 := by
  rcases Nat.eq_zero_or_pos n with rfl | hpos
  · rfl
  · exact absurd h (Text.head?_toDigits_ne_zero hpos)

theorem readFraction_of_endsNumber {rest : List Char} (h : EndsNumber rest) :
    readFraction rest = some (none, rest) := by
  cases rest with
  | nil => rfl
  | cons c rest =>
    unfold readFraction
    split
    · next heq =>
      cases heq
      exact absurd rfl h.2.1
    · rfl

theorem readExponent_of_endsNumber {rest : List Char} (h : EndsNumber rest) :
    readExponent rest = some (none, rest) := by
  cases rest with
  | nil => rfl
  | cons c rest =>
    have hc : ¬ (c = 'e' ∨ c = 'E') := by
      rintro (rfl | rfl)
      · exact h.2.2.1 rfl
      · exact h.2.2.2 rfl
    unfold readExponent
    dsimp only
    rw [if_neg hc]

/-- **The digits of a number read back** with a given sign. -/
theorem readMagnitude_toDigits {width n : Nat} (negative : Bool) {rest : List Char}
    (hw : (Nat.toDigits 10 n).length ≤ width) (hr : EndsNumber rest) :
    readMagnitude width negative (Nat.toDigits 10 n ++ rest) =
      some (.int (Text.signed negative n), rest) := by
  have hword : word? "Infinity".toList (Nat.toDigits 10 n ++ rest) = none := by
    obtain ⟨c, cs, hd, hdigit⟩ := Text.exists_toDigits_eq_cons n
    have hc : 'I' ≠ c := by
      rintro rfl
      exact absurd hdigit (by decide)
    rw [hd]
    show (if 'I' = c then _ else none) = none
    rw [if_neg hc]
  -- No zero stands in front of other digits, which the grammar forbids.
  have hzero : ((Nat.toDigits 10 n).head? == some '0' &&
      decide (1 < (Nat.toDigits 10 n).length)) = false := by
    rw [Bool.and_eq_false_iff]
    by_cases hhead : (Nat.toDigits 10 n).head? = some '0'
    · rw [length_toDigits_of_head hhead]
      exact Or.inr rfl
    · exact Or.inl (beq_eq_false_iff_ne.2 hhead)
  have hlong : decide (width < (Nat.toDigits 10 n).length) = false := by
    rw [decide_eq_false_iff_not]
    omega
  unfold readMagnitude
  rw [hword]
  dsimp only
  rw [digitSpan_append (fun c hc => Text.isDigit_of_mem_toDigits hc) hr]
  dsimp only
  rw [Text.isEmpty_toDigits, hzero, hlong, if_neg (by decide), readFraction_of_endsNumber hr]
  dsimp only
  rw [readExponent_of_endsNumber hr]
  dsimp only
  unfold numberOf
  rw [Nat.ofDigitChars_ten_toDigits]

theorem readScalar_integerText {width : Nat} {n : Int} {rest : List Char}
    (hw : (Nat.toDigits 10 n.natAbs).length ≤ width) (hr : EndsNumber rest) :
    readScalar width (Text.integerText n ++ rest) = some (.int n, rest) := by
  have hread := fun negative => readMagnitude_toDigits (n := n.natAbs) negative hw hr
  have hsigned := Text.signed_natAbs n
  unfold Text.integerText
  by_cases hn : n < 0
  · rw [decide_eq_true hn] at hsigned
    rw [if_pos hn, List.cons_append]
    show readMagnitude width true _ = _
    rw [hread, hsigned]
  · rw [decide_eq_false hn] at hsigned
    rw [if_neg hn]
    -- The first digit is none of the letters nor the sign that select another reader.
    have hscalar : readScalar width (Nat.toDigits 10 n.natAbs ++ rest) =
        readMagnitude width false (Nat.toDigits 10 n.natAbs ++ rest) := by
      obtain ⟨c, cs, hd, hc⟩ := Text.exists_toDigits_eq_cons n.natAbs
      rw [hd, List.cons_append]
      unfold readScalar
      split
      · next heq => cases heq; exact absurd hc (by decide)
      · next heq => cases heq; exact absurd hc (by decide)
      · next heq => cases heq; exact absurd hc (by decide)
      · next heq => cases heq; exact absurd hc (by decide)
      · next heq => cases heq; exact absurd hc (by decide)
      · rfl
    rw [hscalar, hread, hsigned]

/-! ## Between tokens -/

/-- Whether a text starts with a token: no blank, and no bracket that closes an array. -/
def StartsToken : List Char → Prop
  | [] => False
  | c :: _ => (c == ' ' || c == '\t' || c == '\n' || c == '\r') = false ∧ c ≠ ']'

theorem skipBlanks_of_startsToken {cs : List Char} (h : StartsToken cs) : skipBlanks cs = cs := by
  cases cs with
  | nil => exact h.elim
  | cons c cs =>
    unfold skipBlanks
    rw [List.dropWhile_cons_of_neg]
    rw [h.1]
    decide

theorem StartsToken.append {cs : List Char} (h : StartsToken cs) (rest : List Char) :
    StartsToken (cs ++ rest) := by
  cases cs with
  | nil => exact h.elim
  | cons c cs => exact h

theorem startsToken_of_isDigit {c : Char} (cs : List Char) (h : c.isDigit = true) :
    StartsToken (c :: cs) := by
  have hne : ∀ d : Char, d.isDigit = false → (c == d) = false := by
    intro d hd
    rw [beq_eq_false_iff_ne]
    rintro rfl
    rw [h] at hd
    cases hd
  refine ⟨?_, fun hc => ?_⟩
  · rw [hne ' ' (by decide), hne '\t' (by decide), hne '\n' (by decide), hne '\r' (by decide)]
    rfl
  · rw [hc] at h
    exact absurd h (by decide)

/-- The text of a value starts with a token. -/
theorem startsToken_write {width : Nat} : ∀ {v : Json} {depth : Nat}, Fits width v depth →
    StartsToken (write v)
  | .null, _, _ => ⟨rfl, by decide⟩
  | .bool true, _, _ => ⟨rfl, by decide⟩
  | .bool false, _, _ => ⟨rfl, by decide⟩
  | .int n, _, _ => by
    show StartsToken (Text.integerText n)
    unfold Text.integerText
    split
    · exact ⟨rfl, by decide⟩
    · obtain ⟨c, cs, hd, hc⟩ := Text.exists_toDigits_eq_cons n.natAbs
      rw [hd]
      exact startsToken_of_isDigit cs hc
  | .float _, _, h => h.elim
  | .str _, _, _ => ⟨rfl, by decide⟩
  | .arr [], _, _ => ⟨rfl, by decide⟩
  | .arr (_ :: _), _, _ => ⟨rfl, by decide⟩
  | .obj [], _, _ => ⟨rfl, by decide⟩
  | .obj ((_, _) :: _), _, _ => ⟨rfl, by decide⟩

theorem endsNumber_writeItems (xs : List Json) (rest : List Char) :
    EndsNumber (writeItems xs ++ rest) := by
  cases xs with
  | nil => exact ⟨by decide, by decide, by decide, by decide⟩
  | cons x xs => exact ⟨by decide, by decide, by decide, by decide⟩

theorem endsNumber_writeMembers (members : List (String × Json)) (rest : List Char) :
    EndsNumber (writeMembers members ++ rest) := by
  cases members with
  | nil => exact ⟨by decide, by decide, by decide, by decide⟩
  | cons member members => exact ⟨by decide, by decide, by decide, by decide⟩

/-! ## Values -/

/-- A value that is no string and no container is read as a scalar. -/
theorem readValue_of_scalar {width fuel depth : Nat} {c : Char} {cs : List Char}
    (hc : StartsToken (c :: cs)) (hq : c ≠ '"') (ha : c ≠ '[') (ho : c ≠ '\x7b') :
    readValue width (fuel + 1) depth (c :: cs) = readScalar width (c :: cs) := by
  rw [readValue, skipBlanks_of_startsToken hc]
  split
  · next heq => cases heq; exact absurd rfl hq
  · next heq => cases heq; exact absurd rfl ha
  · next heq => cases heq; exact absurd rfl ho
  · rfl

/-- **A written integer reads back** as a value. -/
theorem readValue_integerText {width fuel depth : Nat} {n : Int} {rest : List Char}
    (hw : (Nat.toDigits 10 n.natAbs).length ≤ width) (hr : EndsNumber rest) :
    readValue width (fuel + 1) depth (Text.integerText n ++ rest) = some (.int n, rest) := by
  have hstart : StartsToken (Text.integerText n ++ rest) :=
    (show StartsToken (write (.int n)) from @startsToken_write width (.int n) depth hw).append rest
  have hscalar := readScalar_integerText hw hr
  cases ht : Text.integerText n with
  | nil => exact absurd ht (Text.integerText_ne_nil n)
  | cons c cs =>
    have hmem : c ∈ Text.integerText n := by
      rw [ht]
      exact List.mem_cons_self
    rw [ht, List.cons_append] at hstart hscalar
    rw [List.cons_append, readValue_of_scalar hstart, hscalar]
    · exact Text.ne_of_mem_integerText hmem (by decide) (by decide)
    · exact Text.ne_of_mem_integerText hmem (by decide) (by decide)
    · exact Text.ne_of_mem_integerText hmem (by decide) (by decide)

/-- No value is written as nothing. -/
theorem length_write_pos {width depth : Nat} {v : Json} (h : Fits width v depth) :
    0 < (write v).length := by
  have hstart := startsToken_write h
  cases hw : write v with
  | nil =>
    rw [hw] at hstart
    exact hstart.elim
  | cons c cs => exact Nat.succ_pos _

/-- An array that is not empty is read by its items. -/
theorem readValue_array {width fuel depth : Nat} {cs : List Char} (hdepth : 0 < depth)
    (hstart : StartsToken cs) :
    readValue width (fuel + 1) depth ('[' :: cs) =
      (readItems width fuel (depth - 1) cs).map fun (items, rest) => (.arr items, rest) := by
  cases cs with
  | nil => exact hstart.elim
  | cons c cs =>
    show (if depth = 0 then none else _) = _
    rw [if_neg (Nat.pos_iff_ne_zero.1 hdepth), skipBlanks_of_startsToken hstart]
    split
    · next heq => cases heq; exact absurd rfl hstart.2
    · rfl

/-- An object that is not empty is read by its members. -/
theorem readValue_object {width fuel depth : Nat} {key : String} {cs rest : List Char}
    (hdepth : 0 < depth) :
    readValue width (fuel + 1) depth ('\x7b' :: ((quote key ++ cs) ++ rest)) =
      (readMembers width fuel (depth - 1) ((quote key ++ cs) ++ rest)).map
        fun (ms, rest) => (.obj ms, rest) := by
  show (if depth = 0 then none else _) = _
  rw [if_neg (Nat.pos_iff_ne_zero.1 hdepth)]
  rfl

/-- A quoted text starts with its quote. -/
theorem skipBlanks_quote (key : String) (cs : List Char) :
    skipBlanks (quote key ++ ':' :: cs) =
      '"' :: (key.toList.flatMap escape ++ '"' :: ':' :: cs) := by
  unfold quote
  rw [List.cons_append, List.append_assoc, List.singleton_append]
  rfl

/-- A member whose value is followed by the closing brace is the last one. -/
theorem readMembers_last {width fuel depth : Nat} (key : String) {v : Json} {cs rest : List Char}
    (hvalue : readValue width fuel depth cs = some (v, '}' :: rest)) :
    readMembers width (fuel + 1) depth (quote key ++ ':' :: cs) = some ([(key, v)], rest) := by
  have hcolon : skipBlanks (':' :: cs) = ':' :: cs := rfl
  have hclose : skipBlanks ('}' :: rest) = '}' :: rest := rfl
  rw [readMembers, skipBlanks_quote]
  simp only [readString_escape, hcolon, hvalue, hclose, String.ofList_toList]

/-- A member whose value is followed by a comma goes before the members after it. -/
theorem readMembers_more {width fuel depth : Nat} (key : String) {v : Json} {cs rest after : List Char}
    {members : List (String × Json)}
    (hvalue : readValue width fuel depth cs = some (v, ',' :: rest))
    (hmore : readMembers width fuel depth rest = some (members, after)) :
    readMembers width (fuel + 1) depth (quote key ++ ':' :: cs) =
      some ((key, v) :: members, after) := by
  have hcolon : skipBlanks (':' :: cs) = ':' :: cs := rfl
  have hcomma : skipBlanks (',' :: rest) = ',' :: rest := rfl
  rw [readMembers, skipBlanks_quote]
  simp only [readString_escape, hcolon, hvalue, hcomma, hmore, Option.map_some, String.ofList_toList]

mutual

/-- **A written value reads back** in front of any text that does not go on with a number. -/
theorem readValue_write {width : Nat} : ∀ (v : Json) (fuel depth : Nat) (rest : List Char),
    Fits width v depth → EndsNumber rest → 2 * (write v).length ≤ fuel →
      readValue width fuel depth (write v ++ rest) = some (v, rest)
  | v, 0, depth, _, hfits, _, hfuel => by
    have := length_write_pos hfits
    omega
  | .null, fuel + 1, depth, rest, _, _, _ => rfl
  | .bool true, fuel + 1, depth, rest, _, _, _ => rfl
  | .bool false, fuel + 1, depth, rest, _, _, _ => rfl
  | .int n, fuel + 1, depth, rest, hfits, hr, _ => readValue_integerText hfits hr
  | .float _, _ + 1, _, _, hfits, _, _ => hfits.elim
  | .str s, fuel + 1, depth, rest, _, _, _ => by
    show (readString ((s.toList.flatMap escape ++ ['"']) ++ rest)).map _ = _
    rw [List.append_assoc, List.singleton_append, readString_escape]
    show some (Json.str (String.ofList s.toList), rest) = _
    rw [String.ofList_toList]
  | .arr [], fuel + 1, depth, rest, hfits, _, _ => by
    show (if depth = 0 then none else some (Json.arr [], rest)) = _
    rw [if_neg (Nat.pos_iff_ne_zero.1 hfits.1)]
  | .arr (x :: xs), fuel + 1, depth, rest, hfits, _, hfuel => by
    obtain ⟨hdepth, hx, hxs⟩ := hfits
    rw [write, List.length_cons] at hfuel
    rw [write, List.cons_append, List.append_assoc,
      readValue_array hdepth ((startsToken_write hx).append _),
      readItems_write x xs fuel (depth - 1) rest hx hxs (by omega)]
    rfl
  | .obj [], fuel + 1, depth, rest, hfits, _, _ => by
    show (if depth = 0 then none else some (Json.obj [], rest)) = _
    rw [if_neg (Nat.pos_iff_ne_zero.1 hfits.1)]
  | .obj ((k, v) :: members), fuel + 1, depth, rest, hfits, _, hfuel => by
    obtain ⟨hdepth, hv, hmembers⟩ := hfits
    have hread := readMembers_write k v members fuel (depth - 1) rest hv hmembers
    rw [write, List.length_cons] at hfuel
    rw [write, List.cons_append, readValue_object hdepth, hread (by omega)]
    rfl

/-- Written items read back, with the bracket that closes them. -/
theorem readItems_write {width : Nat} : ∀ (x : Json) (xs : List Json) (fuel depth : Nat)
    (rest : List Char), Fits width x depth → FitItems width xs depth →
      2 * (write x ++ writeItems xs).length ≤ fuel →
        readItems width fuel depth (write x ++ (writeItems xs ++ rest)) = some (x :: xs, rest)
  | x, xs, 0, depth, _, hx, _, hfuel => by
    have := length_write_pos hx
    rw [List.length_append] at hfuel
    omega
  | x, [], fuel + 1, depth, rest, hx, _, hfuel => by
    rw [List.length_append] at hfuel
    rw [readItems, readValue_write x fuel depth _ hx (endsNumber_writeItems [] rest)]
    · rfl
    · have : (writeItems []).length = 1 := rfl
      omega
  | x, y :: ys, fuel + 1, depth, rest, hx, hxs, hfuel => by
    have hlen : (writeItems (y :: ys)).length = (write y ++ writeItems ys).length + 1 := rfl
    rw [List.length_append] at hfuel
    -- The comma in front of the items left over pays for the call that reads them.
    have hy := readItems_write y ys fuel depth rest hxs.1 hxs.2 (by omega)
    rw [readItems, readValue_write x fuel depth _ hx (endsNumber_writeItems (y :: ys) rest) (by omega)]
    show (readItems width fuel depth ((write y ++ writeItems ys) ++ rest)).map _ = _
    rw [List.append_assoc, hy]
    rfl

/-- Written members read back, with the brace that closes them. -/
theorem readMembers_write {width : Nat} : ∀ (k : String) (v : Json) (members : List (String × Json))
    (fuel depth : Nat) (rest : List Char), Fits width v depth → FitMembers width members depth →
      2 * (quote k ++ ':' :: (write v ++ writeMembers members)).length ≤ fuel →
        readMembers width fuel depth ((quote k ++ ':' :: (write v ++ writeMembers members)) ++ rest) =
          some ((k, v) :: members, rest)
  | k, v, members, 0, depth, _, _, _, hfuel => by
    rw [List.length_append, List.length_cons] at hfuel
    omega
  | k, v, [], fuel + 1, depth, rest, hv, _, hfuel => by
    rw [List.length_append, List.length_cons, List.length_append] at hfuel
    rw [List.append_assoc, List.cons_append, List.append_assoc]
    exact readMembers_last k
      (readValue_write v fuel depth _ hv (endsNumber_writeMembers [] rest) (by omega))
  | k, v, (k', v') :: members, fuel + 1, depth, rest, hv, hmembers, hfuel => by
    have hlen : (writeMembers ((k', v') :: members)).length =
        (quote k' ++ ':' :: (write v' ++ writeMembers members)).length + 1 := rfl
    rw [List.length_append, List.length_cons, List.length_append] at hfuel
    have hmore := readMembers_write k' v' members fuel depth rest hmembers.1 hmembers.2 (by omega)
    rw [List.append_assoc, List.cons_append, List.append_assoc]
    exact readMembers_more k
      (readValue_write v fuel depth _ hv (endsNumber_writeMembers ((k', v') :: members) rest)
        (by omega)) hmore

end

/-! ## Whole texts -/

/-- **What is rendered is parsed back** to the same value, within the limits of payloads. -/
theorem parse?_render {v : Json} (h : Fits payloadLimits.width v payloadLimits.depth) :
    parse? v.render = some v := by
  have hread := readValue_write v (2 * (write v).length + 2) payloadLimits.depth [] h trivial (by omega)
  unfold parse? parseWithin? render
  rw [String.toList_ofList]
  dsimp only
  rw [List.append_nil] at hread
  rw [hread]
  rfl

end WebhookRegistry.Json
