/-
  Page tokens read back.

  A written number has neither a colon nor anything but a sign and digits, so the first colon of a token
  is the one that `encode` put there, whatever the id holds. The milliseconds of an instant have at most
  fifteen digits, so neither limit on numbers gets in the way, and they name the whole millisecond of
  the instant. Hence `decode_encode`: the id comes back as it was and the time rounded down to the
  millisecond, which changes nothing for a time that is a whole number of milliseconds.

  Reading is more liberal than writing, so a place has many tokens. One of them is `Canonical`: its
  number is in the shortest form. Writing gives that one (`canonical_ofCursor`), and a token that has
  been read once and written again is a fixed point of both (`decode_ofCursor`).
-/
import WebhookRegistry.Proofs.Paging.TokenGrammar

namespace WebhookRegistry.PageToken

/-! ## The number in front of the colon -/

/-- **A written number is read** as far as the two limits allow. -/
theorem readMillis_integerText (n : Int) :
    readMillis (Text.integerText n) =
      if Text.maxDigits < (Nat.toDigits 10 n.natAbs).length then .error .tooManyDigits
      else if fitsInt64 n then .ok n else .error .notMillis := by
  unfold readMillis
  rw [Text.splitSign_integerText]
  dsimp only
  rw [Text.isEmpty_toDigits, Text.all_isDigit_toDigits, if_neg (by decide),
    Text.digitsValue_toDigits, Text.signed_natAbs]

/-- A written number is read as no other number. -/
theorem eq_of_readMillis_integerText {n m : Int} (h : readMillis (Text.integerText n) = .ok m) :
    m = n := by
  rw [readMillis_integerText] at h
  split at h
  · cases h
  · split at h
    · exact (Except.ok.inj h).symm
    · cases h

/-- The milliseconds of an instant are within both limits. -/
theorem readMillis_millis (t : Instant) : readMillis (Text.integerText t.millis) = .ok t.millis := by
  have hbounds := t.millis_bounds
  have hdigits : (Nat.toDigits 10 t.millis.natAbs).length ≤ 15 :=
    (Nat.length_toDigits_le_iff (by decide) (by decide)).2 (by omega)
  have hfits : fitsInt64 t.millis = true := by
    unfold fitsInt64
    rw [Bool.and_eq_true, decide_eq_true_eq, decide_eq_true_eq]
    omega
  have hfew : ¬ Text.maxDigits < (Nat.toDigits 10 t.millis.natAbs).length :=
    Nat.not_lt.2 (Nat.le_trans hdigits (by decide))
  rw [readMillis_integerText, if_neg hfew, if_pos hfits]

theorem colon_not_mem_integerText (n : Int) : ':' ∉ Text.integerText n :=
  fun h => Text.ne_of_mem_integerText h (by decide) (by decide) rfl

/-! ## Whole tokens -/

theorem toList_encode (time : LogicalTime) (id : String) :
    (encode time id).toList = Text.integerText time.millis ++ ':' :: id.toList :=
  String.toList_ofList

/-- No token, or an empty one, names no place. -/
theorem decode_of_empty {token : Option String} (h : token.getD "" = "") :
    decode token = .ok none := by
  cases token with
  | none => rfl
  | some text => rw [show text = "" from h, decode_empty]

/-- **A token reads back**: its id as it was, its time rounded down to the millisecond. -/
theorem decode_encode (time : LogicalTime) (id : String) :
    decode (some (encode time id)) =
      .ok (some ⟨LogicalTime.of (some time.toInstant.floorMillis), id⟩) := by
  have htime : LogicalTime.ofMillis? time.millis =
      some (LogicalTime.of (some time.toInstant.floorMillis)) := by
    show (Instant.ofMillis? time.toInstant.millis).map _ = _
    rw [Instant.ofMillis?_millis]
    rfl
  refine decode_eq_ok_some_iff.2 ⟨_, id.toList, time.millis, _, toList_encode time id,
    colon_not_mem_integerText _, readMillis_millis time.toInstant, htime, ?_⟩
  rw [String.ofList_toList]

/-! ## Canonical tokens -/

/-- Whether the number in front of the first colon of a token is in the shortest form. -/
def Canonical (token : String) : Prop :=
  ∃ number id, token.toList = number ++ ':' :: id ∧ Text.IsShortest number

/-- What stands behind the first colon of a token. -/
def afterColon (token : String) : String :=
  String.ofList ((token.toList.dropWhile (· != ':')).drop 1)

theorem afterColon_of_toList {token : String} {number id : List Char}
    (htoken : token.toList = number ++ ':' :: id) (hnot : ':' ∉ number) :
    afterColon token = String.ofList id := by
  unfold afterColon
  rw [htoken, List.dropWhile_append_of_pos (ne_colon_of_not_mem hnot),
    List.dropWhile_cons_of_neg (by decide)]
  rfl

theorem afterColon_encode (time : LogicalTime) (id : String) : afterColon (encode time id) = id := by
  rw [afterColon_of_toList (toList_encode time id) (colon_not_mem_integerText _), String.ofList_toList]

/-- **Writing gives a canonical token.** -/
theorem canonical_ofCursor (cursor : Cursor) : Canonical (ofCursor cursor) :=
  ⟨_, _, toList_encode cursor.time cursor.id, Text.isShortest_iff.2 ⟨_, rfl⟩⟩

/-- **A cursor that was read from a token is read from its canonical token too**, exactly. -/
theorem decode_ofCursor {text : String} {cursor : Cursor}
    (h : decode (some text) = .ok (some cursor)) :
    decode (some (ofCursor cursor)) = .ok (some cursor) := by
  obtain ⟨number, id, n, time, -, -, -, htime, rfl⟩ := decode_eq_ok_some_iff.1 h
  show decode (some (encode time (String.ofList id))) = _
  rw [decode_encode, LogicalTime.of_floorMillis_of_ofMillis? htime]

/-- The id of a cursor is what stands behind the first colon, whichever token it was read from. -/
theorem id_eq_afterColon {text : String} {cursor : Cursor}
    (h : decode (some text) = .ok (some cursor)) : cursor.id = afterColon text := by
  obtain ⟨number, id, n, time, htext, hnot, -, -, rfl⟩ := decode_eq_ok_some_iff.1 h
  exact (afterColon_of_toList htext hnot).symm

/-- **A place has one canonical token**: the one that is written for it. -/
theorem eq_ofCursor_of_canonical {text : String} {cursor : Cursor} (hcanonical : Canonical text)
    (h : decode (some text) = .ok (some cursor)) : text = ofCursor cursor := by
  obtain ⟨number, id, htext, hshortest⟩ := hcanonical
  obtain ⟨m, rfl⟩ := Text.isShortest_iff.1 hshortest
  rw [decode_eq_ok_some_iff_decodeChars, htext] at h
  obtain ⟨n, time, hn, htime, rfl⟩ :=
    (decodeChars_append_eq_ok_iff (colon_not_mem_integerText m)).1 h
  have hmillis : time.millis = m := by
    rw [LogicalTime.millis_of_ofMillis? htime, eq_of_readMillis_integerText hn]
  refine String.toList_inj.1 ?_
  show text.toList = (encode time (String.ofList id)).toList
  rw [toList_encode, htext, hmillis, String.toList_ofList]

/-! ## Writing and reading -/

/-- Whether a cursor names the place of a time and an id as closely as a token can: the id as it is, and
    the latest whole millisecond that is not after the time. -/
structure Names (time : LogicalTime) (id : String) (cursor : Cursor) : Prop where
  id_eq : cursor.id = id
  whole : cursor.time.toInstant.IsWholeMillis
  le : cursor.time ≤ time
  latest : ∀ t : Instant, t.IsWholeMillis → t ≤ time.toInstant → t ≤ cursor.time.toInstant
  eq_of_whole : time.toInstant.IsWholeMillis → (cursor.time == time) = true
  unset_of_epoch : time.toInstant = .epoch → cursor.time = .unset

/-- The cursor that is read from the token of a time and an id names their place. -/
theorem names_floorMillis (time : LogicalTime) (id : String) :
    Names time id ⟨LogicalTime.of (some time.toInstant.floorMillis), id⟩ := by
  have hinstant : (LogicalTime.of (some time.toInstant.floorMillis)).toInstant =
      time.toInstant.floorMillis := LogicalTime.toInstant_of _
  refine ⟨rfl, ?_, ?_, ?_, ?_, ?_⟩
  · rw [hinstant]
    exact Instant.isWholeMillis_floorMillis _
  · show (LogicalTime.of _).toInstant ≤ time.toInstant
    rw [hinstant]
    exact Instant.floorMillis_le _
  · intro t ht hle
    rw [hinstant]
    exact Instant.le_floorMillis ht hle
  · intro hwhole
    rw [LogicalTime.beq_iff, hinstant, Instant.floorMillis_of_isWholeMillis hwhole]
  · intro hepoch
    rw [hepoch]
    rfl

/-- Whether a token is the canonical one of a text that names a cursor: it names the same cursor, keeps
    what stands behind the colon, is not changed by reading and writing it again, and is the only
    canonical token of the cursor. -/
structure Normalizes (text : String) (cursor : Cursor) (token : String) : Prop where
  canonical : Canonical token
  decode_eq : decode (some token) = .ok (some cursor)
  afterColon_eq : afterColon token = afterColon text
  unchanged : ∀ again, decode (some token) = .ok (some again) → ofCursor again = token
  unique : ∀ other, Canonical other → decode (some other) = .ok (some cursor) → other = token

/-- What is written for a cursor is the canonical token of every text that names it. -/
theorem normalizes_ofCursor {text : String} {cursor : Cursor}
    (h : decode (some text) = .ok (some cursor)) : Normalizes text cursor (ofCursor cursor) where
  canonical := canonical_ofCursor cursor
  decode_eq := decode_ofCursor h
  afterColon_eq := by
    rw [← id_eq_afterColon h]
    exact afterColon_encode cursor.time cursor.id
  unchanged again hagain := by
    rw [decode_ofCursor h] at hagain
    cases hagain
    rfl
  unique _ hcanonical hother := eq_ofCursor_of_canonical hcanonical hother

/-- **Tokens are a codec of places**: the token of any time and any id is read back to their place, and
    any text that is read as a place has the token of that place as its one canonical form. -/
theorem token_codec :
    (∀ time id, ∃ cursor, decode (some (encode time id)) = .ok (some cursor) ∧
      Names time id cursor) ∧
      ∀ text cursor, decode (some text) = .ok (some cursor) →
        Normalizes text cursor (ofCursor cursor) :=
  ⟨fun time id => ⟨_, decode_encode time id, names_floorMillis time id⟩,
    fun _ _ h => normalizes_ofCursor h⟩

/-- A time just before the epoch is rounded to the millisecond before it; a plus, a zero in front and a
    wide digit are not canonical. -/
theorem token_codec_of_wide_digit :
    let before : LogicalTime := LogicalTime.of (some ⟨-1, by decide, by decide⟩)
    let cursor : Cursor := ⟨LogicalTime.of (some ⟨1000, by decide, by decide⟩), "a:b"⟩
    encode before "7:" = "-1:7:" ∧
      (∃ rounded, decode (some "-1:7:") = .ok (some rounded) ∧ Names before "7:" rounded) ∧
      decode (some "+0１:a:b") = .ok (some cursor) ∧ ofCursor cursor = "1:a:b" ∧
      Normalizes "+0１:a:b" cursor "1:a:b" := by
  intro before cursor
  have hbefore : encode before "7:" = "-1:7:" := by decide
  have hcursor : ofCursor cursor = "1:a:b" := by decide
  have hdecode : decode (some "+0１:a:b") = .ok (some cursor) := rfl
  exact ⟨hbefore, hbefore ▸ token_codec.1 before "7:", hdecode, hcursor,
    hcursor ▸ token_codec.2 _ _ hdecode⟩

end WebhookRegistry.PageToken
