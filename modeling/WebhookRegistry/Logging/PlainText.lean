/-
  What reaches a console that is no terminal.

  Where the console is not a terminal, the sequences that set titles or colours are taken out before a
  text is written. Such a sequence starts with an escape character; a start-of-heading character right
  before it and a start-of-text character right after it belong to it.

  Titles go first. They are looked up in the text as it came, and taken out one after another at the
  places where they were found; so behind the first of them, which has made the text shorter, it is other
  characters that go. A title that names the window cannot be set without a terminal, and a text with
  such a title is not written at all. A reader of the console sees whole lines only, that is, what stands
  before a line feed.
-/
import WebhookRegistry.Text.Digit

namespace WebhookRegistry.PlainText

/-! ## Sequences -/

/-- The text without a start-of-text character at its start. -/
def dropMark : List Char → List Char
  | '\x02' :: rest => rest
  | cs => cs

/-- The text behind the escape character with which it starts, or with the mark in front of that one. -/
def afterEscape? : List Char → Option (List Char)
  | '\x01' :: '\x1b' :: rest => some rest
  | '\x1b' :: rest => some rest
  | _ => none

/-! ## Titles -/

/-- A title sequence in a text: where it starts, where it ends, and what it says. -/
structure Title where
  start : Nat
  stop : Nat
  content : List Char
  deriving DecidableEq, Repr

/-- The content of a title sequence at the start of a text, and the rest: behind the escape character a
    bracket, then all up to the bell. -/
def readTitle? (cs : List Char) : Option (List Char × List Char) :=
  match afterEscape? cs with
  | some (']' :: rest) =>
    match rest.dropWhile (· != '\x07') with
    | _ :: after => some (rest.takeWhile (· != '\x07'), dropMark after)
    | [] => none
  | _ => none

/-- The titles of a text of at most `fuel` characters; `place` is where the text starts. -/
def titlesFrom : Nat → Nat → List Char → List Title
  | 0, _, _ => []
  | _ + 1, _, [] => []
  | fuel + 1, place, c :: cs =>
    match readTitle? (c :: cs) with
    | some (content, rest) =>
      let stop := place + (cs.length + 1 - rest.length)
      ⟨place, stop, content⟩ :: titlesFrom fuel stop rest
    | none => titlesFrom fuel (place + 1) cs

/-- The titles of a text. -/
def titles (cs : List Char) : List Title := titlesFrom cs.length 0 cs

/-- Whether a title names the window: its content is two parts with one semicolon between them, and the
    first part is the code of the window title or left out. -/
def Title.namesWindow (title : Title) : Bool :=
  title.content.count ';' == 1 &&
    [[], ['0'], ['2'], ['0', '2']].contains (title.content.takeWhile (· != ';'))

/-- The text without the characters between the places of a title. -/
def cut (cs : List Char) (title : Title) : List Char := cs.take title.start ++ cs.drop title.stop

/-! ## Colours -/

/-- The rest of a text after a colour sequence at its start: behind the escape character a bracket,
    numbers with semicolons between them, and a letter. -/
def afterColour? (cs : List Char) : Option (List Char) :=
  match afterEscape? cs with
  | some ('[' :: rest) =>
    match rest.dropWhile fun c => Text.isDigit c || c == ';' with
    | c :: after => if c.isAlpha then some (dropMark after) else none
    | [] => none
  | _ => none

/-- Takes the colour sequences out of a text of at most `fuel` characters. -/
def dropColours : Nat → List Char → List Char
  | 0, cs => cs
  | _ + 1, [] => []
  | fuel + 1, c :: cs =>
    match afterColour? (c :: cs) with
    | some rest => dropColours fuel rest
    | none => c :: dropColours fuel cs

/-! ## Writing -/

/-- What is written for a text, `none` if it names the window. -/
def written? (text : String) : Option String :=
  let found := titles text.toList
  if found.any Title.namesWindow then none
  else
    let cs := found.foldl cut text.toList
    some (String.ofList (dropColours cs.length cs))

/-- Splits a text into lines; `line` holds the characters of the current line, last one first. What
    stands behind the last line feed is no line yet. -/
def linesFrom (line : List Char) : List Char → List (List Char)
  | [] => []
  | '\n' :: rest => line.reverse :: linesFrom [] rest
  | c :: rest => linesFrom (c :: line) rest

/-- The lines of a text. -/
def lines (text : String) : List String := (linesFrom [] text.toList).map String.ofList

/-- **There are as many lines as line feeds.** -/
theorem length_linesFrom (line cs : List Char) : (linesFrom line cs).length = cs.count '\n' := by
  induction cs generalizing line with
  | nil => rfl
  | cons c rest ih =>
    by_cases h : c = '\n'
    · subst h
      simp [linesFrom, ih]
    · rw [linesFrom, ih, List.count_cons_of_ne h]
      exact h

end WebhookRegistry.PlainText
