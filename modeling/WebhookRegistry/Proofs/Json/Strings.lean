/-
  Written strings read back.

  The writer escapes one character at a time, so the proof goes character by character: `readPieces`
  takes off the escape of a character as one piece (`readPieces_escape`), and `assemble` turns the pieces
  back into the characters. A control character without a short form comes as a code unit below U+0020,
  which is no surrogate and therefore stands for itself.
-/
import WebhookRegistry.Json.Reader
import WebhookRegistry.Json.Writer

namespace WebhookRegistry.Json

/-! ## Pieces -/

/-- Whether a character is written by its number. -/
def isNumbered (c : Char) : Bool :=
  decide (c.toNat < 0x20) &&
    !(c == '\n' || c == '\r' || c == '\t' || c == '\x08' || c == '\x0c')

/-- The piece as which the escape of a character is read. -/
def pieceOf (c : Char) : Piece := if isNumbered c then .unit c.toNat else .char c

/-- A digit that is written is read, for both digits of a control. -/
theorem hexValue?_digitChar : ∀ n : Fin 16, hexValue? (Nat.digitChar n) = some n.val := by decide

/-- The four digits of a control denote its number. -/
theorem codeUnit?_of_lt {n : Nat} (h : n < 0x20) :
    codeUnit? '0' '0' (Nat.digitChar (n / 16)) (Nat.digitChar (n % 16)) = some n := by
  have hzero : hexValue? '0' = some 0 := by decide
  have hhigh : hexValue? (Nat.digitChar (n / 16)) = some (n / 16) :=
    hexValue?_digitChar ⟨n / 16, by omega⟩
  have hlow : hexValue? (Nat.digitChar (n % 16)) = some (n % 16) :=
    hexValue?_digitChar ⟨n % 16, by omega⟩
  unfold codeUnit?
  rw [hzero, hhigh, hlow]
  show some (4096 * 0 + 256 * 0 + 16 * (n / 16) + n % 16) = some n
  congr 1
  omega

/-- A character that needs no escape is read as itself. -/
theorem readPieces_plain {c : Char} {rest : List Char} (hq : c ≠ '"') (hb : c ≠ '\\')
    (hc : ¬ c.toNat < 0x20) :
    readPieces (c :: rest) = (readPieces rest).map (consPiece (.char c)) := by
  rw [readPieces.eq_def]
  split
  · next h => cases h
  · next h =>
    cases h
    exact absurd rfl hq
  · next h =>
    cases h
    exact absurd rfl hb
  · next h =>
    cases h
    exact absurd rfl hb
  · next h =>
    cases h
    rw [if_neg hc]

/-- **One character reads back**, whatever follows it. -/
theorem readPieces_escape (c : Char) (rest : List Char) :
    readPieces (escape c ++ rest) = (readPieces rest).map (consPiece (pieceOf c)) := by
  unfold escape
  split
  · subst_vars
    rfl
  split
  · subst_vars
    rfl
  split
  · subst_vars
    rfl
  split
  · subst_vars
    rfl
  split
  · subst_vars
    rfl
  split
  · subst_vars
    rfl
  split
  · subst_vars
    rfl
  split
  · next hq hb hn hr ht h8 hf hctl =>
    have hpiece : pieceOf c = .unit c.toNat := by
      unfold pieceOf isNumbered
      simp [hn, hr, ht, h8, hf, hctl]
    show readPieces ('\\' :: 'u' :: '0' :: '0' :: _ :: _ :: rest) = _
    rw [hpiece, readPieces, codeUnit?_of_lt hctl]
  · next hq hb hn hr ht h8 hf hctl =>
    have hpiece : pieceOf c = .char c := by
      unfold pieceOf isNumbered
      simp [hctl]
    rw [hpiece]
    exact readPieces_plain hq hb hctl

/-- The pieces of a written string, up to its closing quote. -/
theorem readPieces_flatMap_escape (text rest : List Char) :
    readPieces (text.flatMap escape ++ '"' :: rest) = some (text.map pieceOf, rest) := by
  induction text with
  | nil => rfl
  | cons c text ih =>
    rw [List.flatMap_cons, List.append_assoc, readPieces_escape, ih]
    rfl

/-! ## Characters -/

/-- A code unit that is no surrogate stands for its character, whatever follows it. -/
theorem assemble_unit {n : Nat} (h : n < 0xd800) (pieces : List Piece) :
    assemble (.unit n :: pieces) = (assemble pieces).map (Char.ofNat n :: ·) := by
  have hhigh : isHighSurrogate n = false := by
    unfold isHighSurrogate
    rw [decide_eq_false (by omega), Bool.false_and]
  have hlow : isLowSurrogate n = false := by
    unfold isLowSurrogate
    rw [decide_eq_false (by omega), Bool.false_and]
  -- A second unit selects another equation, with the same outcome.
  cases pieces with
  | nil => simp [assemble, hhigh, hlow]
  | cons piece pieces =>
    cases piece with
    | char c => simp [assemble, hhigh, hlow]
    | unit m => simp [assemble, hhigh, hlow]

theorem assemble_map_pieceOf (text : List Char) : assemble (text.map pieceOf) = some text := by
  induction text with
  | nil => rfl
  | cons c text ih =>
    rw [List.map_cons]
    by_cases hc : isNumbered c = true
    · have hlt : c.toNat < 0x20 := by
        unfold isNumbered at hc
        exact of_decide_eq_true (Bool.and_eq_true _ _ ▸ hc).1
      have hpiece : pieceOf c = .unit c.toNat := by
        unfold pieceOf
        rw [if_pos hc]
      rw [hpiece, assemble_unit (by omega), ih, Char.ofNat_toNat]
      rfl
    · have hpiece : pieceOf c = .char c := by
        unfold pieceOf
        rw [if_neg hc]
      rw [hpiece, assemble, ih]
      rfl

/-- **A written string reads back**, after its opening quote. -/
theorem readString_escape (text rest : List Char) :
    readString (text.flatMap escape ++ '"' :: rest) = some (text, rest) := by
  unfold readString
  rw [readPieces_flatMap_escape]
  dsimp only
  rw [assemble_map_pieceOf]
  rfl

end WebhookRegistry.Json
