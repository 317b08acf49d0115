/-
  The store of a process over time.

  A factory is asked for its store again and again while the settings change and the store is dropped.
  What a request is answered can be told by looking back over the steps before it: either a request since
  the last reset has succeeded (`Keeps`), or the settings of the moment decide.

  1. **One request**: it hands out what is kept (`get_of_kept`), builds a store from the settings
     (`get_of_built`) or fails and changes nothing (`get_of_refused`, `get_of_tooDeep`). In each case what
     is kept afterwards is what was answered (`kept_get_iff`).

  2. **Looking back** (`kept_after_iff`): by induction on the steps, from the last one back, a store is
     kept exactly if it was given out since the last reset.

  3. **Numbers** (`Numbered`): stores are numbered upwards, so a store that is given out after a reset has
     a higher number than any that was given out before it.

  A request can fail in two ways that are no refusal of a name (`fails_without_refusal`): the name is an
  integer that is too long for the message, or the maximum page size is nested too deep.
-/
import Mathlib.Data.List.Induction
import WebhookRegistry.Proofs.Settings.MaxPageSize
import WebhookRegistry.Store.Factory

namespace WebhookRegistry

/-! ## Settings -/

namespace Backend

/-- Whether a setting names a kind of store; one that is not there names the database. -/
inductive Named : Option Json → Backend → Prop where
  | unset : Named none .database
  | database : Named (some (.str "database")) .database
  | memory : Named (some (.str "memory")) .memory

theorem ofSetting_of_named {room : Nat} {setting : Option Json} {backend : Backend}
    (h : Named setting backend) : ofSetting room setting = .ok backend := by
  cases h <;> rfl

/-- How a value that names no store is refused: a list or an object as no name at all, any other value as
    unknown, by its text. Only an integer too long to be written out has no text; that is refused for its
    length. -/
structure Refuses (room : Nat) (v : Json) (fault : Fault) : Prop where
  notName_iff : fault = .notName ↔ (∃ items, v = .arr items) ∨ ∃ members, v = .obj members
  noText_iff : (∃ hindrance, fault = .noText hindrance) ↔ ∃ n, v = .int n ∧ Text.isShort n = false
  unknown : ∀ text, fault = .unknown text → v.text room = .ok text

/-- A value that has a text and is neither a list nor an object is refused by its text. -/
theorem refuses_unknown {room : Nat} {v : Json} {text : String} (harr : ∀ items, v ≠ .arr items)
    (hobj : ∀ members, v ≠ .obj members) (hint : ∀ n, v = .int n → Text.isShort n = true)
    (htext : v.text room = .ok text) : Refuses room v (.unknown text) where
  notName_iff := iff_of_false nofun (not_or.2 ⟨not_exists.2 harr, not_exists.2 hobj⟩)
  noText_iff := by
    refine iff_of_false nofun ?_
    rintro ⟨n, rfl, hlong⟩
    rw [hint n rfl] at hlong
    cases hlong
  unknown _ heq := by
    cases heq
    exact htext

/-- **Any other value than the name of a store is refused.** -/
theorem exists_refuses {room : Nat} {v : Json} (h : ∀ backend, ¬ Named (some v) backend) :
    ∃ fault, ofSetting room (some v) = .error fault ∧ Refuses room v fault := by
  cases v with
  | null => exact ⟨_, rfl, refuses_unknown nofun nofun nofun rfl⟩
  | bool b => cases b <;> exact ⟨_, rfl, refuses_unknown nofun nofun nofun rfl⟩
  | float x => exact ⟨_, rfl, refuses_unknown nofun nofun nofun rfl⟩
  | str text =>
    have hdb : text ≠ Backend.database.name := by
      rintro rfl
      exact h _ .database
    have hmem : text ≠ Backend.memory.name := by
      rintro rfl
      exact h _ .memory
    have hof : ofSetting room (some (.str text)) = .error (.unknown text) := by
      simp only [ofSetting, ofName, if_neg hdb, if_neg hmem]
    exact ⟨_, hof, refuses_unknown nofun nofun nofun rfl⟩
  | int n =>
    have htext := Json.text_int room n
    cases hshort : Text.isShort n with
    | true =>
      rw [hshort, if_pos rfl] at htext
      refine ⟨.unknown _, by simp only [ofSetting, htext], refuses_unknown nofun nofun ?_ htext⟩
      rintro m heq
      cases heq
      exact hshort
    | false =>
      rw [hshort, if_neg Bool.false_ne_true] at htext
      refine ⟨.noText .tooManyDigits, by simp only [ofSetting, htext], iff_of_false nofun ?_,
        iff_of_true ⟨_, rfl⟩ ⟨n, rfl, hshort⟩, nofun⟩
      rintro (⟨items, heq⟩ | ⟨members, heq⟩) <;> cases heq
  | arr items =>
    exact ⟨.notName, rfl, iff_of_true rfl (Or.inl ⟨items, rfl⟩), iff_of_false nofun nofun, nofun⟩
  | obj members =>
    exact ⟨.notName, rfl, iff_of_true rfl (Or.inr ⟨members, rfl⟩), iff_of_false nofun nofun, nofun⟩

end Backend

namespace Factory

/-! ## One request -/

variable {room : Nat} {settings : Settings} {factory : Factory} {built : Built}

/-- Whether the maximum page size in settings is nested too deep for so much room. -/
def Settings.TooDeep (room : Nat) (settings : Settings) : Prop :=
  Properties.TooDeep room ⟨[], settings.properties⟩ maxPageSizeProperty

/-- **Settings give a maximum page size** unless it is too deep: no text stands for an infinite number. -/
theorem Settings.exists_load (h : ¬ settings.TooDeep room) :
    ∃ size, MaxPageSize.load room ⟨[], settings.properties⟩ = .ok size := by
  have hfinite : MaxPageSize.FiniteOverride ⟨[], settings.properties⟩ := nofun
  exact (MaxPageSize.exists_load_iff hfinite).2 h

theorem get_of_kept (h : factory.kept = some built) :
    factory.get room settings = ((.ok built, []), factory) := by
  unfold get
  rw [h]

theorem get_of_built {backend : Backend} {size : MaxPageSize} (h : factory.kept = none)
    (hbackend : Backend.ofSetting room settings.backend = .ok backend)
    (hsize : MaxPageSize.load room ⟨[], settings.properties⟩ = .ok size) :
    factory.get room settings =
      ((.ok ⟨factory.count, backend, size.value⟩, .storeSelected backend.name :: size.events),
        ⟨some ⟨factory.count, backend, size.value⟩, factory.count + 1⟩) := by
  unfold get
  rw [h, hbackend, hsize]

theorem get_of_refused {fault : Backend.Fault} (h : factory.kept = none)
    (hfault : Backend.ofSetting room settings.backend = .error fault) :
    factory.get room settings = ((.error (.backend fault), []), factory) := by
  unfold get
  rw [h, hfault]

/-- The store is selected before its maximum page size turns out to be too deep. -/
theorem get_of_tooDeep {backend : Backend} (h : factory.kept = none)
    (hbackend : Backend.ofSetting room settings.backend = .ok backend) (hdeep : settings.TooDeep room) :
    factory.get room settings =
      ((.error (.maxPageSize .tooDeep), [.storeSelected backend.name]), factory) := by
  unfold get
  rw [h, hbackend, MaxPageSize.load_of_tooDeep hdeep]

/-- **All that a request can do**: hand out what is kept, build the next store, or fail. -/
theorem get_cases (room : Nat) (settings : Settings) (factory : Factory) :
    (∃ built, factory.kept = some built ∧ factory.get room settings = ((.ok built, []), factory)) ∨
    (∃ backend size events, events ≠ [] ∧ factory.get room settings =
      ((.ok ⟨factory.count, backend, size⟩, events),
        ⟨some ⟨factory.count, backend, size⟩, factory.count + 1⟩)) ∨
    ∃ fault events, factory.kept = none ∧
      factory.get room settings = ((.error fault, events), factory) := by
  cases hkept : factory.kept with
  | some built => exact Or.inl ⟨built, rfl, get_of_kept hkept⟩
  | none =>
    cases hbackend : Backend.ofSetting room settings.backend with
    | error fault => exact Or.inr (Or.inr ⟨_, _, rfl, get_of_refused hkept hbackend⟩)
    | ok backend =>
      by_cases hdeep : settings.TooDeep room
      · exact Or.inr (Or.inr ⟨_, _, rfl, get_of_tooDeep hkept hbackend hdeep⟩)
      · obtain ⟨size, hsize⟩ := Settings.exists_load hdeep
        exact Or.inr (Or.inl ⟨backend, size.value, _, List.cons_ne_nil _ _,
          get_of_built hkept hbackend hsize⟩)

/-- **What is kept after a request is what it was answered.** -/
theorem kept_get_iff :
    (factory.get room settings).2.kept = some built ↔ (factory.get room settings).1.1 = .ok built := by
  rcases get_cases room settings factory with
    ⟨old, hkept, hget⟩ | ⟨backend, size, events, -, hget⟩ | ⟨fault, events, hkept, hget⟩
  · rw [hget, hkept, Option.some.injEq, Except.ok.injEq]
  · rw [hget, Option.some.injEq, Except.ok.injEq]
  · rw [hget, hkept]
    exact iff_of_false nofun nofun

/-! ## Steps -/

/-- The settings and the factory after a step. -/
def Step.apply : Settings × Factory → Step → Settings × Factory
  | (_, factory), .settings settings => (settings, factory)
  | (settings, factory), .reset => (settings, factory.reset)
  | (settings, factory), .get room => (settings, (factory.get room settings).2)

/-- The settings and the factory after steps, from a factory that has built nothing. -/
def after (start : Settings) (steps : List Step) : Settings × Factory :=
  steps.foldl Step.apply (start, .empty)

/-- What a request for the store is answered after steps, with what it logs. -/
def call (start : Settings) (before : List Step) (room : Nat) : Except Fault Built × List Event :=
  ((after start before).2.get room (after start before).1).1

/-- Whether a store was given out since the last reset. -/
def Keeps (start : Settings) (before : List Step) (built : Built) : Prop :=
  ∃ earlier room between, before = earlier ++ .get room :: between ∧ .reset ∉ between ∧
    (call start earlier room).1 = .ok built

theorem run_append (first second : List Step) (settings : Settings) (factory : Factory) :
    run (first ++ second) settings factory =
      run first settings factory ++
        run second (first.foldl Step.apply (settings, factory)).1
          (first.foldl Step.apply (settings, factory)).2 := by
  induction first generalizing settings factory with
  | nil => rfl
  | cons step rest ih =>
    cases step with
    | settings next => exact ih next factory
    | reset => exact ih settings factory.reset
    | get room => exact congrArg (_ :: ·) (ih settings (factory.get room settings).2)

variable {start : Settings} {before : List Step}

theorem after_snoc (start : Settings) (before : List Step) (step : Step) :
    after start (before ++ [step]) = Step.apply (after start before) step := by
  unfold after
  rw [List.foldl_append]
  rfl

theorem not_keeps_nil : ¬ Keeps start [] built := by
  rintro ⟨earlier, room, between, heq, -⟩
  simp at heq

/-- One more step: a request gives out a store, and anything but a reset leaves what was given out. -/
theorem keeps_snoc_iff {step : Step} :
    Keeps start (before ++ [step]) built ↔
      (∃ room, step = .get room ∧ (call start before room).1 = .ok built) ∨
        (step ≠ .reset ∧ Keeps start before built) := by
  constructor
  · rintro ⟨earlier, room, between, heq, hreset, hcall⟩
    rcases List.eq_nil_or_concat between with rfl | ⟨front, last, rfl⟩
    · obtain ⟨rfl, hstep⟩ := List.append_inj' heq rfl
      cases hstep
      exact Or.inl ⟨room, rfl, hcall⟩
    · rw [List.concat_eq_append, ← List.cons_append, ← List.append_assoc] at heq
      obtain ⟨rfl, hstep⟩ := List.append_inj' heq rfl
      cases hstep
      simp only [List.concat_eq_append, List.mem_append, List.mem_singleton, not_or] at hreset
      exact Or.inr ⟨fun h => hreset.2 h.symm, earlier, room, front, rfl, hreset.1, hcall⟩
  · rintro (⟨room, rfl, hcall⟩ | ⟨hstep, earlier, room, between, rfl, hreset, hcall⟩)
    · exact ⟨before, room, [], rfl, List.not_mem_nil, hcall⟩
    · refine ⟨earlier, room, between ++ [step], by simp, ?_, hcall⟩
      simp only [List.mem_append, List.mem_singleton, not_or]
      exact ⟨hreset, fun h => hstep h.symm⟩

/-- **A store is kept exactly if it was given out since the last reset.** -/
theorem kept_after_iff {steps : List Step} :
    (after start steps).2.kept = some built ↔ Keeps start steps built := by
  induction steps using List.reverseRecOn generalizing built with
  | nil => exact iff_of_false nofun not_keeps_nil
  | append_singleton before step ih =>
    rw [after_snoc, keeps_snoc_iff, ← ih]
    cases step with
    | settings next =>
      show (after start before).2.kept = some built ↔ _
      simp
    | reset =>
      show none = some built ↔ _
      simp
    | get room =>
      show ((after start before).2.get room (after start before).1).2.kept = some built ↔ _
      rw [kept_get_iff]
      show (call start before room).1 = .ok built ↔ _
      constructor
      · exact fun hcall => Or.inl ⟨room, rfl, hcall⟩
      · rintro (⟨other, heq, hcall⟩ | ⟨-, hkept⟩)
        · cases heq
          exact hcall
        · -- What is kept already is handed out again.
          exact congrArg (fun result => result.1.1) (get_of_kept hkept)

/-! ## Numbers -/

theorem count_le_apply (state : Settings × Factory) (step : Step) :
    state.2.count ≤ (step.apply state).2.count := by
  obtain ⟨settings, factory⟩ := state
  cases step with
  | settings next => exact Nat.le_refl _
  | reset => exact Nat.le_refl _
  | get room =>
    show factory.count ≤ (factory.get room settings).2.count
    rcases get_cases room settings factory with
      ⟨old, -, hget⟩ | ⟨backend, size, events, -, hget⟩ | ⟨fault, events, -, hget⟩
    · have hcount : (factory.get room settings).2.count = factory.count := by rw [hget]
      omega
    · have hcount : (factory.get room settings).2.count = factory.count + 1 := by rw [hget]
      omega
    · have hcount : (factory.get room settings).2.count = factory.count := by rw [hget]
      omega

theorem count_le_foldl (state : Settings × Factory) (steps : List Step) :
    state.2.count ≤ (steps.foldl Step.apply state).2.count := by
  induction steps generalizing state with
  | nil => exact Nat.le_refl _
  | cons step rest ih => exact Nat.le_trans (count_le_apply state step) (ih _)

/-- Whether the store that is kept has a number from a bound on, below that of the next store. -/
structure Numbered (low : Nat) (factory : Factory) : Prop where
  low_le_count : low ≤ factory.count
  kept : ∀ built, factory.kept = some built → low ≤ built.number ∧ built.number < factory.count

theorem numbered_empty : Numbered 0 .empty := ⟨Nat.zero_le _, nofun⟩

/-- After a reset all numbers are still to come. -/
theorem numbered_reset (factory : Factory) : Numbered factory.count factory.reset :=
  ⟨Nat.le_refl _, nofun⟩

theorem Numbered.apply {low : Nat} {state : Settings × Factory} (h : Numbered low state.2)
    (step : Step) : Numbered low (step.apply state).2 := by
  obtain ⟨settings, factory⟩ := state
  have hlow : low ≤ factory.count := h.low_le_count
  cases step with
  | settings next => exact h
  | reset => exact ⟨hlow, nofun⟩
  | get room =>
    show Numbered low (factory.get room settings).2
    rcases get_cases room settings factory with
      ⟨old, -, hget⟩ | ⟨backend, size, events, -, hget⟩ | ⟨fault, events, -, hget⟩
    · rw [hget]
      exact h
    · rw [hget]
      refine ⟨Nat.le_succ_of_le hlow, fun built hbuilt => ?_⟩
      cases hbuilt
      exact ⟨hlow, Nat.lt_succ_self _⟩
    · rw [hget]
      exact h

/-- **Numbers stay above a bound** whatever happens to the factory. -/
theorem Numbered.foldl {low : Nat} {state : Settings × Factory} (h : Numbered low state.2)
    (steps : List Step) : Numbered low (steps.foldl Step.apply state).2 := by
  induction steps generalizing state with
  | nil => exact h
  | cons step rest ih => exact ih (h.apply step)

theorem after_append (start : Settings) (first second : List Step) :
    after start (first ++ second) = second.foldl Step.apply (after start first) := by
  unfold after
  rw [List.foldl_append]

/-- What a request is answered is kept after it. -/
theorem kept_after_get (h : (call start before room).1 = .ok built) :
    (after start (before ++ [.get room])).2.kept = some built := by
  rw [after_snoc]
  exact kept_get_iff.2 h

/-- **A store that was given out has a lower number than any that is still to be built.** -/
theorem number_lt_count (h : (call start before room).1 = .ok built) (between : List Step) :
    built.number < (after start (before ++ .get room :: between)).2.count := by
  have hnumbered : Numbered 0 (after start (before ++ [.get room])).2 := numbered_empty.foldl _
  have hlt := (hnumbered.kept built (kept_after_get h)).2
  have hle := count_le_foldl (after start (before ++ [.get room])) between
  rw [← after_append, List.append_assoc] at hle
  exact Nat.lt_of_lt_of_le hlt hle

/-- A store that is given out after a reset has a number that was still to come at the reset. -/
theorem count_le_number {later : List Step}
    (h : (call start (before ++ .reset :: later) room).1 = .ok built) :
    (after start before).2.count ≤ built.number := by
  have hreset : Numbered (after start before).2.count (Step.apply (after start before) .reset).2 :=
    numbered_reset (after start before).2
  have hlater := hreset.foldl (later ++ [.get room])
  have hkept := kept_after_get h
  rw [List.append_assoc, after_append] at hkept
  exact (hlater.kept built hkept).1

/-! ## Whole runs -/

/-- What is kept is handed out again, and nothing is logged. -/
theorem call_of_keeps (h : Keeps start before built) (room : Nat) :
    call start before room = (.ok built, []) :=
  congrArg Prod.fst (get_of_kept (kept_after_iff.2 h))

theorem kept_eq_none (h : ∀ built, ¬ Keeps start before built) :
    (after start before).2.kept = none := by
  cases hkept : (after start before).2.kept with
  | none => rfl
  | some built => exact absurd (kept_after_iff.1 hkept) (h built)

/-- Without a store a value that names none is refused. -/
theorem call_of_refused {fault : Backend.Fault} (h : ∀ built, ¬ Keeps start before built)
    (hfault : Backend.ofSetting room (after start before).1.backend = .error fault) :
    call start before room = (.error (.backend fault), []) :=
  congrArg Prod.fst (get_of_refused (kept_eq_none h) hfault)

/-- Without a store none is built if its maximum page size is too deep. -/
theorem call_of_tooDeep {backend : Backend} (h : ∀ built, ¬ Keeps start before built)
    (hbackend : Backend.Named (after start before).1.backend backend)
    (hdeep : (after start before).1.TooDeep room) :
    call start before room = (.error (.maxPageSize .tooDeep), [.storeSelected backend.name]) :=
  congrArg Prod.fst (get_of_tooDeep (kept_eq_none h) (Backend.ofSetting_of_named hbackend) hdeep)

/-- **Two requests give out one store exactly if there is no reset between them.** -/
theorem number_eq_iff {earlier between : List Step} {later : Nat} {first second : Built}
    (hfirst : (call start earlier room).1 = .ok first)
    (hsecond : (call start (earlier ++ .get room :: between) later).1 = .ok second) :
    (first.number = second.number ↔ .reset ∉ between) ∧
      (first.number = second.number → first = second) := by
  by_cases hreset : .reset ∈ between
  · -- Numbers given out after the reset are higher than those before it.
    obtain ⟨front, rest, rfl⟩ := List.append_of_mem hreset
    have hlt := number_lt_count hfirst front
    have hlater : (call start ((earlier ++ .get room :: front) ++ .reset :: rest) later).1 =
        .ok second := by
      rw [List.append_assoc]
      exact hsecond
    have hle := count_le_number hlater
    have hne : first.number ≠ second.number := by omega
    exact ⟨iff_of_false hne fun h => h hreset, fun h => absurd h hne⟩
  · have hkeeps : Keeps start (earlier ++ .get room :: between) first :=
      ⟨earlier, room, between, rfl, hreset, hfirst⟩
    rw [call_of_keeps hkeeps] at hsecond
    cases hsecond
    exact ⟨iff_of_true rfl hreset, fun _ => rfl⟩

/-- A store that is given out without a selection was kept: one that is built is logged, and a request
    that fails gives out none. -/
theorem keeps_of_call (h : call start before room = (.ok built, [])) : Keeps start before built := by
  rcases get_cases room (after start before).1 (after start before).2 with
    ⟨old, hkept, hget⟩ | ⟨backend, size, events, hevents, hget⟩ | ⟨fault, events, -, hget⟩
  · cases h.symm.trans (congrArg Prod.fst hget)
    exact kept_after_iff.1 hkept
  · cases h.symm.trans (congrArg Prod.fst hget)
    exact absurd rfl hevents
  · cases h.symm.trans (congrArg Prod.fst hget)

/-- **A request that fails changes nothing.** -/
theorem after_of_error {fault : Fault} (h : (call start before room).1 = .error fault) :
    after start (before ++ [.get room]) = after start before := by
  rw [after_snoc]
  rcases get_cases room (after start before).1 (after start before).2 with
    ⟨old, -, hget⟩ | ⟨backend, size, events, -, hget⟩ | ⟨refusal, events, -, hget⟩
  · exact congrArg (fun result => ((after start before).1, result.2)) hget
  · cases h.symm.trans (congrArg (fun result => result.1.1) hget)
  · exact congrArg (fun result => ((after start before).1, result.2)) hget

/-- Whether a request after some steps builds a store of a kind: it selects the kind, takes the maximum
    page size from the settings of the moment, and gives out a store unlike all before it. -/
def Builds (start : Settings) (before : List Step) (room : Nat) (backend : Backend) : Prop :=
  ∃ number size, MaxPageSize.load room ⟨[], (after start before).1.properties⟩ = .ok size ∧
    call start before room =
      (.ok ⟨number, backend, size.value⟩, .storeSelected backend.name :: size.events) ∧
    ∀ earlier other between built, before = earlier ++ .get other :: between →
      (call start earlier other).1 = .ok built → built.number ≠ number

/-- **Without a store the settings of the moment decide** which one is built. -/
theorem builds_of_named {backend : Backend} (h : ∀ built, ¬ Keeps start before built)
    (hbackend : Backend.Named (after start before).1.backend backend)
    (hfits : ¬ (after start before).1.TooDeep room) : Builds start before room backend := by
  obtain ⟨size, hsize⟩ := Settings.exists_load hfits
  have hget := get_of_built (kept_eq_none h) (Backend.ofSetting_of_named hbackend) hsize
  refine ⟨(after start before).2.count, size, hsize, congrArg Prod.fst hget, ?_⟩
  rintro earlier other between built rfl hbuilt
  exact Nat.ne_of_lt (number_lt_count hbuilt between)

/-- What a factory answers over time, from any settings and before it has built anything. -/
structure Lifecycle (start : Settings) : Prop where
  /-- The answers of a run are those of its requests in their order. -/
  run_eq : ∀ before room later, ∃ rest, run (before ++ .get room :: later) start .empty =
    run before start .empty ++ call start before room :: rest
  /-- Two requests give out one store exactly if there is no reset between them. -/
  same_iff : ∀ earlier room between later first second, (call start earlier room).1 = .ok first →
    (call start (earlier ++ .get room :: between) later).1 = .ok second →
      (first.number = second.number ↔ .reset ∉ between) ∧
        (first.number = second.number → first = second)
  /-- A request gives out a store without selecting one exactly if it was given out since the last
      reset. -/
  kept_iff : ∀ before room built, call start before room = (.ok built, []) ↔ Keeps start before built
  /-- Else it builds a store if the settings of the moment name one or say nothing. -/
  built : ∀ before room backend, (∀ built, ¬ Keeps start before built) →
    Backend.Named (after start before).1.backend backend → ¬ (after start before).1.TooDeep room →
      Builds start before room backend
  /-- It fails, and logs the selection alone, if their maximum page size is nested too deep. -/
  tooDeep : ∀ before room backend, (∀ built, ¬ Keeps start before built) →
    Backend.Named (after start before).1.backend backend → (after start before).1.TooDeep room →
      call start before room = (.error (.maxPageSize .tooDeep), [.storeSelected backend.name])
  /-- It fails, and logs nothing, if they say anything else. -/
  refused : ∀ before room v, (∀ built, ¬ Keeps start before built) →
    (after start before).1.backend = some v → (∀ backend, ¬ Backend.Named (some v) backend) →
      ∃ fault, call start before room = (.error (.backend fault), []) ∧ Backend.Refuses room v fault
  /-- A request that fails changes nothing. -/
  failed : ∀ before room fault, (call start before room).1 = .error fault →
    after start (before ++ [.get room]) = after start before

/-- **The life of a store**: it is built from the settings of its moment by the first request that
    succeeds, and given out until the next reset. -/
theorem lifecycle (start : Settings) : Lifecycle start where
  run_eq := by
    intro before room later
    exact ⟨_, run_append before (.get room :: later) start .empty⟩
  same_iff := by
    intro earlier room between later first second hfirst hsecond
    exact number_eq_iff hfirst hsecond
  kept_iff := by
    intro before room built
    exact ⟨keeps_of_call, fun h => call_of_keeps h room⟩
  built := by
    intro before room backend h hbackend hfits
    exact builds_of_named h hbackend hfits
  tooDeep := by
    intro before room backend h hbackend hdeep
    exact call_of_tooDeep h hbackend hdeep
  refused := by
    intro before room v h hv hnone
    obtain ⟨fault, hfault, hrefuses⟩ := Backend.exists_refuses hnone
    rw [← hv] at hfault
    exact ⟨fault, call_of_refused h hfault, hrefuses⟩
  failed := by
    intro before room fault hcall
    exact after_of_error hcall

/-- The name of an unknown store gives none; then a store is built and stays, though the settings change,
    until it is reset. -/
example :
    (run [.get 9, .settings ⟨some (.str "memory"), []⟩, .get 9, .settings ⟨none, []⟩, .get 9, .reset,
        .get 9] ⟨some (.str "redis"), []⟩ .empty).map (fun answer => answer.1.toOption) =
      [none, some ⟨0, .memory, 100⟩, some ⟨0, .memory, 100⟩, some ⟨1, .database, 100⟩] := by decide

/-- **Not every request that fails refuses a name**: an integer with too many digits is neither refused as
    unknown nor as no name, and a store that is named is not built if its maximum page size is nested too
    deep. -/
theorem fails_without_refusal :
    let long : Settings := ⟨some (.int (10 ^ Text.maxDigits)), []⟩
    let nested : Settings := ⟨some (.str "memory"), [(maxPageSizeProperty, Json.nested 988)]⟩
    call long [] 900 = (.error (.backend (.noText .tooManyDigits)), []) ∧
      call nested [] 980 = (.error (.maxPageSize .tooDeep), [.storeSelected "memory"]) := by
  intro long nested
  constructor
  · have hfault : Backend.ofSetting 900 (after long []).1.backend = .error (.noText .tooManyDigits) := by
      show Backend.ofSetting 900 (some (.int (10 ^ Text.maxDigits))) = _
      simp only [Backend.ofSetting, Json.text_int, Text.isShort_ten_pow]
      rfl
    exact call_of_refused (fun _ => not_keeps_nil) hfault
  · have hnamed : Backend.Named (after nested []).1.backend .memory := .memory
    have hdeep : (after nested []).1.TooDeep 980 := ⟨rfl, _, rfl, Json.text_nested (by decide)⟩
    exact call_of_tooDeep (fun _ => not_keeps_nil) hnamed hdeep

end Factory

end WebhookRegistry
