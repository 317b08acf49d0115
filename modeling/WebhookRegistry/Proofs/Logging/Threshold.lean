/-
  The level that is logged, as the text for it says.

  1. **Which names are those of levels** (`NamesLevel`): eight names for six numbers. Two more names are
     those of other things of the logging system (`foreignNames`), and all the rest stand for nothing.

  2. **What comes of a name** (`thresholdOf_of_namesLevel`, `thresholdOf_of_unnamed`): the level that it
     names, and that of `info` if it stands for nothing. A foreign name is refused
     (`exists_fault_of_foreign`).

  3. **In any case of letters** (`Text.upper_of_toUpper`): a text whose ASCII letters make the name of a
     level when they are capitals is that name in capitals.

  A level, once found, is that of the root and of both sinks (`setAt`). So every text for it will do but
  the foreign names, which fail when the file has been opened already (`SetByName`).
-/
import WebhookRegistry.Logging.Setup

namespace WebhookRegistry

/-! ## Capitals of ASCII letters -/

namespace Text

theorem upperChar_of_ascii {c : Char} (h : c.toNat < 128) : upperChar c = [c.toUpper] := by
  have hall : ∀ n < 128, upperChar (Char.ofNat n) = [(Char.ofNat n).toUpper] := by decide +kernel
  rw [← Char.ofNat_toNat c]
  exact hall c.toNat h

/-- A character with an ASCII capital is an ASCII character: no other has a capital of this kind. -/
theorem toNat_lt_of_toUpper {c : Char} (h : c.toUpper.toNat < 128) : c.toNat < 128 := by
  by_cases hletter : 'a'.val ≤ c.val ∧ c.val ≤ 'z'.val
  · exact Nat.lt_of_le_of_lt (UInt32.le_iff_toNat_le.1 hletter.2) (by decide)
  · have hself : c.toUpper = c := dif_neg hletter
    exact hself ▸ h

/-- **Capitals of ASCII letters**: where the usual ones make an ASCII text, they are the capitals. -/
theorem upper_of_toUpper {text name : String} (h : text.toUpper = name)
    (hascii : ∀ c ∈ name.toList, c.toNat < 128) : upper text = name := by
  have hletters : text.toList.map Char.toUpper = name.toList := by
    rw [← h, String.toUpper, String.toList_map]
  have hchars : ∀ c ∈ text.toList, upperChar c = [c.toUpper] := by
    intro c hc
    have hcapital : c.toUpper ∈ name.toList := hletters ▸ List.mem_map_of_mem hc
    exact upperChar_of_ascii (toNat_lt_of_toUpper (hascii _ hcapital))
  have hupper : text.toList.flatMap upperChar = text.toList.map Char.toUpper := by
    rw [List.map_eq_flatMap, List.flatMap_def, List.flatMap_def, List.map_congr_left hchars]
  rw [upper, hupper, hletters, String.ofList_toList]

end Text

/-! ## Names of levels -/

/-- The names of the levels, with their numbers. -/
inductive NamesLevel : String → Nat → Prop where
  | critical : NamesLevel "CRITICAL" 50
  | fatal : NamesLevel "FATAL" 50
  | error : NamesLevel "ERROR" 40
  | warning : NamesLevel "WARNING" 30
  | warn : NamesLevel "WARN" 30
  | info : NamesLevel "INFO" 20
  | debug : NamesLevel "DEBUG" 10
  | notset : NamesLevel "NOTSET" 0

/-- The names of other things of the logging system: of a text and of a table. -/
def foreignNames : List String := ["BASIC_FORMAT", "_STYLES"]

theorem thresholdOf_of_namesLevel {name : String} {n : Nat} (h : NamesLevel name n) :
    thresholdOf name = .ok n := by
  cases h <;> rfl

theorem exists_fault_of_foreign {name : String} (h : name ∈ foreignNames) :
    ∃ fault, thresholdOf name = .error fault := by
  simp only [foreignNames, List.mem_cons, List.not_mem_nil, or_false] at h
  rcases h with rfl | rfl
  · exact ⟨.text, rfl⟩
  · exact ⟨.table, rfl⟩

theorem thresholdOf_of_unnamed {name : String} (hnone : ∀ n, ¬ NamesLevel name n)
    (hforeign : name ∉ foreignNames) : thresholdOf name = .ok 20 := by
  unfold thresholdOf
  split
  · exact absurd .critical (hnone 50)
  · exact absurd .fatal (hnone 50)
  · exact absurd .error (hnone 40)
  · exact absurd .warning (hnone 30)
  · exact absurd .warn (hnone 30)
  · exact absurd .info (hnone 20)
  · exact absurd .debug (hnone 10)
  · exact absurd .notset (hnone 0)
  · exact absurd (by decide) hforeign
  · exact absurd (by decide) hforeign
  · rfl

theorem not_foreign_of_namesLevel {name : String} {n : Nat} (h : NamesLevel name n) :
    name ∉ foreignNames := by
  cases h <;> decide

/-- A name of a level has ASCII letters only. -/
theorem ascii_of_namesLevel {name : String} {n : Nat} (h : NamesLevel name n) :
    ∀ c ∈ name.toList, c.toNat < 128 := by
  have hall : (name.toList.all fun c => decide (c.toNat < 128)) = true := by
    cases h <;> rfl
  exact fun c hc => of_decide_eq_true (List.all_eq_true.1 hall c hc)

/-! ## Setting up -/

namespace LogSetup

/-- The path of the log file. -/
def pathText (env : Environment) : String := env.getD "LOG_FILE_PATH" "./logs/push-config-store.log"

/-- The log file in its usual place. -/
def usualFile : LogFile := ⟨false, ⟨0, ["logs", "push-config-store.log"]⟩⟩

/-- **The usual path is usable.** -/
theorem ofPath_pathText {env : Environment} (h : Entries.get? "LOG_FILE_PATH" env = none) :
    LogFile.ofPath (pathText env) = .ok usualFile := by
  unfold pathText Environment.getD
  rw [h]
  rfl

/-- The text for the level. -/
def levelText (env : Environment) : String := env.getD "LOG_LEVEL" "INFO"

/-- Logging into a file with one level for the root and for both sinks. -/
def setAt (env : Environment) (file : LogFile) (threshold : Nat) : LogSetup where
  path := pathText env
  levelName := Text.upper (levelText env)
  file := file
  threshold := threshold
  fileThreshold := threshold
  consoleThreshold := threshold
  detached := []

variable {env : Environment} {file : LogFile}

/-- With a usable path it is the threshold that decides. -/
theorem ofEnvironment_of_path (hpath : LogFile.ofPath (pathText env) = .ok file) :
    ofEnvironment env = match thresholdOf (Text.upper (levelText env)) with
      | .error fault => .error (.threshold file fault)
      | .ok threshold => .ok (setAt env file threshold) := by
  unfold pathText at hpath
  unfold ofEnvironment
  dsimp only
  rw [hpath]
  rfl

/-- Whether logging is set up as the text for the level says. In capitals it may name a level, and then
    the root and both sinks have this level; any other text gives them the level of `info`, but for the
    foreign names. These fail, after the file has been opened. The name of a level may be written in any
    case of letters. -/
structure SetByName (env : Environment) (file : LogFile) : Prop where
  succeeds : (∃ setup, ofEnvironment env = .ok setup) ↔ Text.upper (levelText env) ∉ foreignNames
  named : ∀ n, NamesLevel (Text.upper (levelText env)) n → ofEnvironment env = .ok (setAt env file n)
  unnamed : (∀ n, ¬ NamesLevel (Text.upper (levelText env)) n) →
    Text.upper (levelText env) ∉ foreignNames → ofEnvironment env = .ok (setAt env file 20)
  foreign : Text.upper (levelText env) ∈ foreignNames →
    ∃ fault, ofEnvironment env = .error (.threshold file fault)
  anyCase : ∀ name n, NamesLevel name n → (levelText env).toUpper = name →
    ofEnvironment env = .ok (setAt env file n)

/-- **Every text for the level will do but the foreign names**, if the path of the file is usable. -/
theorem set_by_name (env : Environment) (file : LogFile)
    (hpath : LogFile.ofPath (pathText env) = .ok file) : SetByName env file := by
  have hnamed : ∀ n, NamesLevel (Text.upper (levelText env)) n →
      ofEnvironment env = .ok (setAt env file n) := by
    intro n hn
    rw [ofEnvironment_of_path hpath, thresholdOf_of_namesLevel hn]
  have hunnamed : (∀ n, ¬ NamesLevel (Text.upper (levelText env)) n) →
      Text.upper (levelText env) ∉ foreignNames → ofEnvironment env = .ok (setAt env file 20) := by
    intro hnone hforeign
    rw [ofEnvironment_of_path hpath, thresholdOf_of_unnamed hnone hforeign]
  have hforeign : Text.upper (levelText env) ∈ foreignNames →
      ∃ fault, ofEnvironment env = .error (.threshold file fault) := by
    intro hmem
    obtain ⟨fault, hfault⟩ := exists_fault_of_foreign hmem
    exact ⟨fault, by rw [ofEnvironment_of_path hpath, hfault]⟩
  refine ⟨⟨?_, ?_⟩, hnamed, hunnamed, hforeign, ?_⟩
  · rintro ⟨setup, hsetup⟩ hmem
    obtain ⟨fault, hfault⟩ := hforeign hmem
    rw [hfault] at hsetup
    cases hsetup
  · intro hnot
    by_cases hlevel : ∃ n, NamesLevel (Text.upper (levelText env)) n
    · obtain ⟨n, hn⟩ := hlevel
      exact ⟨_, hnamed n hn⟩
    · exact ⟨_, hunnamed (fun n hn => hlevel ⟨n, hn⟩) hnot⟩
  · intro name n hn hname
    have hupper : Text.upper (levelText env) = name :=
      Text.upper_of_toUpper hname (ascii_of_namesLevel hn)
    exact hnamed n (hupper ▸ hn)

/-- A level in letters of both cases, and the file in its usual place. -/
theorem set_by_mixed_name :
    let env : Environment := [("LOG_LEVEL", "wArNiNg")]
    LogFile.ofPath (pathText env) = .ok usualFile ∧ SetByName env usualFile ∧
      ofEnvironment env = .ok (setAt env usualFile 30) := by
  intro env
  have hpath : LogFile.ofPath (pathText env) = .ok usualFile := ofPath_pathText rfl
  have hset := set_by_name env usualFile hpath
  exact ⟨hpath, hset, hset.anyCase "WARNING" 30 .warning (by decide +kernel)⟩

/-- **The name of a text fails**: it names no level, and the path is usable, but logging is not set up at
    the level of `info`, nor at any other. -/
theorem not_set_by_name_of_text :
    let env : Environment := [("LOG_LEVEL", "basic_format")]
    LogFile.ofPath (pathText env) = .ok usualFile ∧
      (∀ n, ¬ NamesLevel (Text.upper (levelText env)) n) ∧
      ofEnvironment env = .error (.threshold usualFile .text) := by
  intro env
  have hpath : LogFile.ofPath (pathText env) = .ok usualFile := ofPath_pathText rfl
  have hupper : Text.upper (levelText env) = "BASIC_FORMAT" := by decide +kernel
  refine ⟨hpath, fun n hn => ?_, ?_⟩
  · rw [hupper] at hn
    exact not_foreign_of_namesLevel hn (by decide)
  · rw [ofEnvironment_of_path hpath, hupper]
    rfl

end LogSetup

end WebhookRegistry
