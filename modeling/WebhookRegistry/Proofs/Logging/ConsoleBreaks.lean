/-
  Line breaks on the console.

  Values stand in the line of an event as they are, so a line break in a value breaks the line. Here is
  said which values do this, and that nothing else in a line is broken:

  1. **What is quoted is one line** (`isOneLine_quotedText`): all values but texts are, lists and objects
     with texts in them included. So a value breaks a line as its own text does (`occurrences_text`).

  2. **Each place has the breaks of its text** (`occurrences_place`, `occurrences_pairs`): colours, blanks
     and what stands between the places are one line, and capitals keep the breaks of a level.

  3. **What stands between two line feeds is a line** for the reader (`mem_lines_of_infix`), and a text
     that is shown with its key stands there as it is (`infix_render`).

  So a line has the breaks of the texts that it shows, one for one (`breaks_with_texts`), and it is one
  line only if each of them is. A client whose token has line feeds writes lines of its own
  (`token_forges_line`).
-/
import WebhookRegistry.Event
import WebhookRegistry.Proofs.Logging.Events
import WebhookRegistry.Proofs.Text.LineBreaks

namespace WebhookRegistry

open Text

namespace Json

/-! ## Values -/

/-- The text that a value is, if it is one. -/
def ownText : Json → List String
  | .str s => [s]
  | _ => []

/-- **What is quoted is one line**, by induction on the room that there is for it. -/
theorem isOneLine_quotedText {room : Nat} {v : Json} {text : String}
    (h : quotedText room v = .ok text) : IsOneLine text := by
  induction room generalizing v text with
  | zero => cases h
  | succ room ih =>
    cases v with
    | null =>
      cases h
      decide
    | bool b => cases b <;> cases h <;> decide
    | int n =>
      rw [quotedText] at h
      split at h
      · cases h
        exact isOneLine_integerText n
      · cases h
    | float x =>
      cases h
      exact x.isOneLine_text
    | str s =>
      cases h
      exact isOneLine_quoted s
    | arr items =>
      obtain ⟨texts, htexts, rfl⟩ := map_eq_ok_iff.1 h
      have hitems : ∀ text ∈ texts, IsOneLine text := by
        intro text hmem
        obtain ⟨v, -, hv⟩ := exists_of_mem_results htexts hmem
        exact ih hv
      have hjoined := isOneLine_intercalate (s := ", ") (by decide) hitems
      exact isOneLine_append_iff.2 ⟨isOneLine_append_iff.2 ⟨by decide, hjoined⟩, by decide⟩
    | obj members =>
      obtain ⟨texts, htexts, rfl⟩ := map_eq_ok_iff.1 h
      have hmembers : ∀ text ∈ texts, IsOneLine text := by
        intro text hmem
        obtain ⟨member, -, hmember⟩ := exists_of_mem_results htexts hmem
        obtain ⟨value, hvalue, rfl⟩ := map_eq_ok_iff.1 hmember
        exact isOneLine_append_iff.2
          ⟨isOneLine_append_iff.2 ⟨isOneLine_quoted member.1, by decide⟩, ih hvalue⟩
      have hjoined := isOneLine_intercalate (s := ", ") (by decide) hmembers
      exact isOneLine_append_iff.2 ⟨isOneLine_append_iff.2 ⟨by decide, hjoined⟩, by decide⟩

/-- **A value has the line breaks of its own text.** -/
theorem occurrences_text {c : Char} (hc : IsBreak c) {room : Nat} {v : Json} {text : String}
    (h : v.text room = .ok text) : occurrences c text = total c v.ownText := by
  cases v with
  | str s =>
    cases h
    exact (Nat.add_zero _).symm
  | _ => exact (isOneLine_quotedText h).occurrences_eq_zero hc

end Json

namespace ConsoleLine

/-! ## Texts in a line -/

/-- The text under a key. -/
def textsUnder (fields : LogFields) (key : String) : List String :=
  ((fields.get? key).toList).flatMap Json.ownText

/-- The texts of a field that is shown with its key. -/
def fieldTexts (field : String × Json) : List String := field.1 :: field.2.ownText

/-- The texts that a line shows as they are: those in its places, then the keys of the other fields with
    the texts of these. -/
def shownTexts (fields : LogFields) : List String :=
  placedKeys.flatMap (textsUnder fields) ++ (shownFields fields).flatMap fieldTexts

variable {c : Char} {room : Nat} {fields : LogFields} {text : String}

theorem forall_mem_ownText_iff {p : String → Prop} {v : Json} :
    (∀ text ∈ v.ownText, p text) ↔ ∀ text, v = .str text → p text := by
  cases v <;> simp [Json.ownText]

/-- **What is asked of all the texts of a line** is asked of the texts in its places, and of the keys and
    the texts of the other fields that are not hidden. -/
theorem forall_mem_shownTexts_iff {p : String → Prop} :
    (∀ text ∈ shownTexts fields, p text) ↔
      (∀ key ∈ placedKeys, ∀ text, fields.get? key = some (.str text) → p text) ∧
      ∀ field ∈ fields, field.1 ∉ hiddenKeys → p field.1 ∧ ∀ text, field.2 = .str text → p text := by
  have hplaced : (∀ text ∈ placedKeys.flatMap (textsUnder fields), p text) ↔
      ∀ key ∈ placedKeys, ∀ text, fields.get? key = some (.str text) → p text := by
    rw [List.forall_mem_flatMap]
    refine forall₂_congr fun key _ => ?_
    unfold textsUnder
    cases fields.get? key with
    | none => simp
    | some v =>
      rw [Option.toList_some, List.flatMap_singleton, forall_mem_ownText_iff]
      simp only [Option.some.injEq]
  have hshown : (∀ text ∈ (shownFields fields).flatMap fieldTexts, p text) ↔
      ∀ field ∈ fields, field.1 ∉ hiddenKeys → p field.1 ∧ ∀ text, field.2 = .str text → p text := by
    rw [List.forall_mem_flatMap]
    unfold shownFields fieldTexts
    rw [List.forall_mem_filter]
    simp only [List.forall_mem_cons, forall_mem_ownText_iff, Bool.not_eq_eq_eq_not, Bool.not_true,
      List.contains_eq_mem, decide_eq_false_iff_not]
  unfold shownTexts
  rw [List.forall_mem_append, hplaced, hshown]

/-! ## Places of a line -/

theorem occurrences_fieldText (hc : IsBreak c) {key default : String} (hdefault : IsOneLine default)
    (h : fieldText room fields key default = .ok text) :
    occurrences c text = total c (textsUnder fields key) := by
  unfold fieldText at h
  unfold textsUnder
  cases hfield : fields.get? key with
  | none =>
    rw [hfield] at h
    cases h
    exact hdefault.occurrences_eq_zero hc
  | some v =>
    rw [hfield] at h
    rw [Option.toList_some, List.flatMap_singleton]
    exact Json.occurrences_text hc h

theorem isOneLine_levelColour (level : String) : IsOneLine (levelColour level) := by
  unfold levelColour
  split <;> decide

/-- A colour breaks no line. -/
theorem occurrences_coloured (hc : IsBreak c) {colour : String} (h : IsOneLine colour) (text : String) :
    occurrences c (coloured colour text) = occurrences c text := by
  have hplain : IsOneLine plain := by decide
  unfold coloured
  rw [occurrences_append, occurrences_append, h.occurrences_eq_zero hc, hplain.occurrences_eq_zero hc,
    Nat.zero_add, Nat.add_zero]

/-- Blanks break no line. -/
theorem occurrences_padRight (hc : IsBreak c) (width : Nat) (text : String) :
    occurrences c (padRight width text) = occurrences c text := by
  have hblanks : IsOneLine (String.ofList (List.replicate (width - text.length) ' ')) :=
    isOneLine_ofList_iff.2 (unbroken_replicate _ (by decide))
  unfold padRight
  rw [occurrences_append, hblanks.occurrences_eq_zero hc, Nat.add_zero]

/-- The place of a field has the breaks of its text. -/
theorem occurrences_place (hc : IsBreak c) {key colour default : String} (hcolour : IsOneLine colour)
    (hdefault : IsOneLine default) (h : fieldText room fields key default = .ok text) :
    occurrences c (coloured colour text) = total c (textsUnder fields key) := by
  rw [occurrences_coloured hc hcolour, occurrences_fieldText hc hdefault h]

/-- The place of the level has the breaks of its text, which stands there in capitals. -/
theorem occurrences_levelPlace (hc : IsBreak c) (colour : String)
    (h : fieldText room fields "level" "INFO" = .ok text) :
    occurrences c (coloured (levelColour colour) ("[" ++ padRight 8 (upper text) ++ "]")) =
      total c (textsUnder fields "level") := by
  have hopen : IsOneLine "[" := by decide
  have hclose : IsOneLine "]" := by decide
  have hdefault : IsOneLine "INFO" := by decide
  rw [occurrences_coloured hc (isOneLine_levelColour colour), occurrences_append, occurrences_append,
    hopen.occurrences_eq_zero hc, hclose.occurrences_eq_zero hc, occurrences_padRight hc,
    occurrences_upper hc, occurrences_fieldText hc hdefault h, Nat.zero_add, Nat.add_zero]

/-- **The fields at the end of a line** break it with their keys and their texts. -/
theorem occurrences_pairs (hc : IsBreak c) {shown : LogFields} {pairs : List String}
    (h : shown.mapM (pairText room) = .ok pairs) :
    occurrences c (" ".intercalate pairs) = total c (shown.flatMap fieldTexts) := by
  have hblank : IsOneLine " " := by decide
  have hequals : IsOneLine "=" := by decide
  have hall := mapM_eq_ok_iff.1 h
  clear h
  rw [occurrences_intercalate (hblank.occurrences_eq_zero hc)]
  induction hall with
  | nil => rfl
  | cons hpair _ ih =>
    obtain ⟨text, htext, rfl⟩ := map_eq_ok_iff.1 hpair
    rw [total_cons, ih, List.flatMap_cons, total_append, fieldTexts, total_cons,
      occurrences_append, occurrences_append, hequals.occurrences_eq_zero hc,
      Json.occurrences_text hc htext, Nat.add_zero]

/-- **A line has the breaks of its texts**, place by place. -/
theorem occurrences_render (hc : IsBreak c) {line : String} (h : render room fields = .ok line) :
    occurrences c line = total c (shownTexts fields) := by
  obtain ⟨p, hp, rfl⟩ := render_eq_ok_iff.1 h
  obtain ⟨hlevel, htime, hrequest, hlogger, hevent, hpairs⟩ := parts_eq_ok_iff.1 hp
  have hblank : IsOneLine " " := by decide
  have hbar : IsOneLine " | " := by decide
  have hnone : IsOneLine "" := by decide
  have htime := occurrences_place hc (by decide : IsOneLine "\x1b[37m") hnone htime
  have hrequest := occurrences_place hc (by decide : IsOneLine "\x1b[35m")
    (by decide : IsOneLine "no-request-id") hrequest
  have hlogger := occurrences_place hc (by decide : IsOneLine "\x1b[34m")
    (by decide : IsOneLine "root") hlogger
  have hevent := occurrences_fieldText hc hnone hevent
  have hend : ∀ rest, occurrences c (if rest.isEmpty then "" else " " ++ coloured "\x1b[33m" rest) =
      occurrences c rest := by
    intro rest
    split
    · next hempty => rw [String.isEmpty_iff.1 hempty]
    · rw [occurrences_append, hblank.occurrences_eq_zero hc, occurrences_coloured hc (by decide),
        Nat.zero_add]
  unfold Parts.line shownTexts placedKeys
  dsimp only
  simp only [occurrences_append, occurrences_levelPlace hc _ hlevel, htime, hrequest, hlogger, hevent,
    hend, occurrences_pairs hc hpairs, hblank.occurrences_eq_zero hc, hbar.occurrences_eq_zero hc,
    List.flatMap_cons, List.flatMap_nil, total_append, total_nil]
  omega

/-- **A text at the end of a line stands there as it is.** -/
theorem infix_render {key line : String} (h : render room fields = .ok line)
    (hmem : (key, .str text) ∈ fields) (hkey : key ∉ hiddenKeys) : text.toList <:+: line.toList := by
  obtain ⟨p, hp, rfl⟩ := render_eq_ok_iff.1 h
  obtain ⟨-, -, -, -, -, hpairs⟩ := parts_eq_ok_iff.1 hp
  have hshown : (key, Json.str text) ∈ shownFields fields := by
    refine List.mem_filter.2 ⟨hmem, ?_⟩
    simp [hkey]
  obtain ⟨pair, hpair, htext⟩ := exists_of_mem_of_mapM hpairs hshown
  have hpairText : key ++ "=" ++ text = pair := Except.ok.inj htext
  have hfield : text.toList <:+: pair.toList := by
    rw [← hpairText, String.toList_append]
    exact (List.suffix_append _ _).isInfix
  have hrest : pair.toList <:+: (" ".intercalate p.pairs).toList := infix_intercalate hpair
  have hsome : (" ".intercalate p.pairs).isEmpty = false := by
    rw [Bool.eq_false_iff]
    intro hempty
    rw [String.isEmpty_iff.1 hempty, ← hpairText] at hrest
    have hlength := hrest.length_le
    simp at hlength
  have hline : (" ".intercalate p.pairs).toList <:+: p.line.toList := by
    unfold Parts.line coloured
    dsimp only
    rw [hsome, if_neg Bool.false_ne_true]
    simp only [String.toList_append]
    exact List.infix_append_of_infix_right (List.infix_append_of_infix_right
      (List.infix_append _ _ _))
  exact hfield.trans (hrest.trans hline)

end ConsoleLine

/-! ## Lines of the console -/

namespace PlainText

theorem linesFrom_cons_of_ne {c : Char} (h : c ≠ '\n') (line rest : List Char) :
    linesFrom line (c :: rest) = linesFrom (c :: line) rest := by
  rw [linesFrom]
  exact h

/-- Characters up to a line feed make the line. -/
theorem linesFrom_append {cs : List Char} (h : '\n' ∉ cs) (line rest : List Char) :
    linesFrom line (cs ++ '\n' :: rest) = (line.reverse ++ cs) :: linesFrom [] rest := by
  induction cs generalizing line with
  | nil => rw [List.nil_append, linesFrom, List.append_nil]
  | cons c cs ih =>
    rw [List.mem_cons, not_or] at h
    have hc : c ≠ '\n' := fun hc => h.1 hc.symm
    rw [List.cons_append, linesFrom_cons_of_ne hc, ih h.2, List.reverse_cons, List.append_assoc]
    rfl

/-- A line behind a line feed is a line, whatever stands in front. -/
theorem mem_linesFrom_append {text rest : List Char} (h : text ∈ linesFrom [] rest)
    (line cs : List Char) : text ∈ linesFrom line (cs ++ '\n' :: rest) := by
  induction cs generalizing line with
  | nil =>
    rw [List.nil_append, linesFrom]
    exact List.mem_cons_of_mem _ h
  | cons c cs ih =>
    rw [List.cons_append]
    by_cases hc : c = '\n'
    · rw [hc, linesFrom]
      exact List.mem_cons_of_mem _ (ih [])
    · rw [linesFrom_cons_of_ne hc]
      exact ih (c :: line)

/-- **What stands between two line feeds is a line.** -/
theorem mem_lines_of_infix {line text : String} (hline : '\n' ∉ line.toList)
    (h : '\n' :: (line.toList ++ ['\n']) <:+: text.toList) : line ∈ lines text := by
  obtain ⟨before, after, htext⟩ := h
  have hfirst : line.toList ∈ linesFrom [] (line.toList ++ '\n' :: after) := by
    rw [linesFrom_append hline]
    exact List.mem_cons_self
  have hmem := mem_linesFrom_append hfirst [] before
  unfold lines
  refine List.mem_map.2 ⟨line.toList, ?_, String.ofList_toList⟩
  rw [← htext]
  simpa using hmem

end PlainText

namespace ConsoleLine

variable {room : Nat} {fields : LogFields}

/-- **A text can hold a line of its own**, between two line feeds. -/
theorem mem_lines_of_text {key text line whole : String} (h : render room fields = .ok whole)
    (hmem : (key, .str text) ∈ fields) (hkey : key ∉ hiddenKeys) (hline : '\n' ∉ line.toList)
    (hbetween : '\n' :: (line.toList ++ ['\n']) <:+: text.toList) :
    line ∈ PlainText.lines (whole ++ "\n") := by
  refine PlainText.mem_lines_of_infix hline ?_
  rw [String.toList_append]
  exact List.infix_append_of_infix_left (hbetween.trans (infix_render h hmem hkey))

/-- What the line of an event has of line breaks, where the stack leaves so much room. -/
structure BreaksWithTexts (room : Nat) (fields : LogFields) : Prop where
  /-- There is a line if and only if no value in it has too long an integer or is nested too deep. -/
  returned : (∃ line, render room fields = .ok line) ↔
    (∀ key ∈ placedKeys, ∀ v, fields.get? key = some v → v.IsShort ∧ v.FitsRoom 1 (room + 1)) ∧
    ∀ field ∈ fields, field.1 ∉ hiddenKeys → field.2.IsShort ∧ field.2.FitsRoom 1 (room + 1)
  /-- Each line break is one of a text, and each one of a text is in the line. -/
  breaks : ∀ line, render room fields = .ok line → ∀ c, IsBreak c →
    occurrences c line = total c (shownTexts fields)
  /-- The line is one line if and only if all the texts in its places are, and all the keys and texts of
      the other fields that are not hidden. -/
  oneLine : ∀ line, render room fields = .ok line → (IsOneLine line ↔
    (∀ key ∈ placedKeys, ∀ text, fields.get? key = some (.str text) → IsOneLine text) ∧
    ∀ field ∈ fields, field.1 ∉ hiddenKeys →
      IsOneLine field.1 ∧ ∀ text, field.2 = .str text → IsOneLine text)
  /-- A reader has one line, and another one for each line feed in a text. -/
  lines : ∀ line, render room fields = .ok line →
    (PlainText.lines (line ++ "\n")).length = total '\n' (shownTexts fields) + 1
  /-- Whatever stands between two line feeds in a text at the end is a line for the reader. -/
  forges : ∀ whole, render room fields = .ok whole → ∀ key text, (key, .str text) ∈ fields →
    key ∉ hiddenKeys → ∀ line : String, '\n' ∉ line.toList →
      '\n' :: (line.toList ++ ['\n']) <:+: text.toList → line ∈ PlainText.lines (whole ++ "\n")

/-- **The texts of an event break its line**, and nothing else does: no number, no list, no object and no
    field that is hidden. -/
theorem breaks_with_texts (room : Nat) (fields : LogFields) : BreaksWithTexts room fields where
  returned := by
    rw [exists_render_iff]
    simp only [Json.hasText_iff, shownFields, List.forall_mem_filter, Bool.not_eq_eq_eq_not,
      Bool.not_true, List.contains_eq_mem, decide_eq_false_iff_not]
  breaks _ hline _ hc := occurrences_render hc hline
  oneLine line hline := by
    rw [← forall_mem_shownTexts_iff, forall_isOneLine_iff, isOneLine_iff]
    refine forall₂_congr fun c hc => ?_
    rw [occurrences_render hc hline]
  lines line hline := by
    have hcount : (PlainText.lines (line ++ "\n")).length = occurrences '\n' (line ++ "\n") := by
      unfold PlainText.lines occurrences
      rw [List.length_map, PlainText.length_linesFrom]
    rw [hcount, occurrences_append, occurrences_render (.inl rfl) hline]
    rfl
  forges _ hwhole _ _ hmem hkey _ hline hbetween :=
    mem_lines_of_text hwhole hmem hkey hline hbetween

/-- An event of the stores as it is logged, before anything is added to it. -/
def logged [Wording] (event : Event) : LogFields := ("event", .str event.name) :: event.fields

/-- **A token forges a line.** A client that asks for a page has a line written that is the one of a
    deletion, character by character. -/
theorem token_forges_line :
    let _ : Wording := ⟨fun _ => "", "", "", ""⟩
    ∃ forged whole, render 0 (logged (.deleted ⟨"t", "a"⟩)) = .ok forged ∧
      render 0 (logged (.retrieving "t" 50 (some ("0:a\n" ++ forged ++ "\n")))) = .ok whole ∧
      ¬ IsOneLine whole ∧ forged ∈ PlainText.lines (whole ++ "\n") := by
  intro wording
  obtain ⟨forged, hdeleted, hforged⟩ : ∃ forged, render 0 (logged (.deleted ⟨"t", "a"⟩)) = .ok forged ∧
      '\n' ∉ forged.toList := ⟨_, rfl, by decide +kernel⟩
  obtain ⟨whole, hwhole⟩ : ∃ whole,
      render 0 (logged (.retrieving "t" 50 (some ("0:a\n" ++ forged ++ "\n")))) = .ok whole := ⟨_, rfl⟩
  have hmem : ("page_token", Json.str ("0:a\n" ++ forged ++ "\n")) ∈
      logged (.retrieving "t" 50 (some ("0:a\n" ++ forged ++ "\n"))) := by
    simp [logged, Event.fields, Json.ofText?]
  have hkey : "page_token" ∉ hiddenKeys := by decide
  have hbetween : '\n' :: (forged.toList ++ ['\n']) <:+: ("0:a\n" ++ forged ++ "\n").toList := by
    refine ⟨"0:a".toList, [], ?_⟩
    simp
  refine ⟨forged, whole, hdeleted, hwhole, fun h => ?_,
    mem_lines_of_text hwhole hmem hkey hforged hbetween⟩
  have hfeed : '\n' ∈ whole.toList := (infix_render hwhole hmem hkey).subset (by simp)
  exact h '\n' hfeed (.inl rfl)

end ConsoleLine

end WebhookRegistry
