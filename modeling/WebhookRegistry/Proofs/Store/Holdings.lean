/-
  What a store holds after a history.

  `Leaves` says it for one key, by looking back from the end of the history: nothing touched the key, or
  the last operation on it deleted it, or that operation set a config. Then the payload is that config
  under the id of the key, and `Born` tells the creation time: that of the record at the start if the key
  was never deleted, else the time of the first set since there was no record (`Gone`).

  1. **One step** (`Leaves.step`): what a history leaves, and then an operation, is what the longer
     history leaves. Hence every run leaves what it should (`leaves_run`).

  2. **No two answers** (`get?_of_leaves`): whatever `Leaves` admits is in the store. So the record under
     a key is determined by the record at the start and the operations on that key alone.
-/
import WebhookRegistry.Proofs.Store.Database
import WebhookRegistry.Proofs.Store.Memory
import WebhookRegistry.Proofs.Store.Runs

namespace WebhookRegistry

open RecordStore

/-! ## Which operations touch a key -/

/-- The key that a task and an optional id stand for; without an id, or with an empty one, the id of the
    task takes its place. -/
inductive StandsFor (taskId : String) : Option String → ConfigKey → Prop
  | given {id : String} : id ≠ "" → StandsFor taskId (some id) ⟨taskId, id⟩
  | missing : StandsFor taskId none ⟨taskId, taskId⟩
  | empty : StandsFor taskId (some "") ⟨taskId, taskId⟩

/-- **A caller addresses the key that the ids stand for.** -/
theorem standsFor_iff {taskId : String} {configId : Option String} {key : ConfigKey} :
    StandsFor taskId configId key ↔ ConfigKey.resolve taskId configId = key := by
  constructor
  · rintro (hne | - | -)
    · exact congrArg (ConfigKey.mk taskId) (if_neg fun h => hne (String.isEmpty_iff.1 h))
    · rfl
    · rfl
  · rintro rfl
    cases configId with
    | none => exact .missing
    | some id =>
      by_cases h : id = ""
      · rw [h]
        exact .empty
      · have hid : resolveConfigId taskId (some id) = id :=
          if_neg fun hempty => h (String.isEmpty_iff.1 hempty)
        unfold ConfigKey.resolve
        rw [hid]
        exact .given h

instance (taskId : String) (configId : Option String) (key : ConfigKey) :
    Decidable (StandsFor taskId configId key) := decidable_of_iff _ standsFor_iff.symm

namespace Operation

/-- Whether an operation deletes a key. -/
def Deletes (key : ConfigKey) : Operation → Prop
  | .delete taskId configId => StandsFor taskId configId key
  | _ => False

/-- Whether an operation sets or deletes a key; listing addresses none. -/
def Addresses (key : ConfigKey) : Operation → Prop
  | .set taskId config => StandsFor taskId config.id key
  | .list _ => False
  | .delete taskId configId => StandsFor taskId configId key

instance (key : ConfigKey) (operation : Operation) : Decidable (operation.Deletes key) :=
  match operation with
  | .set _ _ => inferInstanceAs (Decidable False)
  | .list _ => inferInstanceAs (Decidable False)
  | .delete taskId configId => inferInstanceAs (Decidable (StandsFor taskId configId key))

instance (key : ConfigKey) (operation : Operation) : Decidable (operation.Addresses key) :=
  match operation with
  | .set taskId config => inferInstanceAs (Decidable (StandsFor taskId config.id key))
  | .list _ => inferInstanceAs (Decidable False)
  | .delete taskId configId => inferInstanceAs (Decidable (StandsFor taskId configId key))

theorem Deletes.addresses {key : ConfigKey} {operation : Operation} (h : operation.Deletes key) :
    operation.Addresses key := by
  cases operation with
  | set => exact absurd h id
  | list => exact absurd h id
  | delete => exact h

end Operation

/-- Whether no operation of a history addresses a key. -/
def Untouched (key : ConfigKey) (history : History) : Prop :=
  ∀ entry ∈ history, ¬ entry.2.Addresses key

/-- Whether no operation of a history deletes a key. -/
def NeverDeleted (key : ConfigKey) (history : History) : Prop :=
  ∀ entry ∈ history, ¬ entry.2.Deletes key

instance (key : ConfigKey) (history : History) : Decidable (Untouched key history) :=
  inferInstanceAs (Decidable (∀ entry ∈ history, _))

instance (key : ConfigKey) (history : History) : Decidable (NeverDeleted key history) :=
  inferInstanceAs (Decidable (∀ entry ∈ history, _))

theorem untouched_nil (key : ConfigKey) : Untouched key [] :=
  fun _ hmem => absurd hmem List.not_mem_nil

theorem Untouched.neverDeleted {key : ConfigKey} {history : History} (h : Untouched key history) :
    NeverDeleted key history := fun entry hmem hdelete => h entry hmem hdelete.addresses

/-! ## What a history leaves -/

section

variable {π : Type} (key : ConfigKey) (start : Option (Stored π))

/-- Whether a history leaves no record: nothing touched the key since it was deleted, or since the start
    if there was no record then. -/
inductive Gone : History → Prop
  | never {history : History} : start = none → Untouched key history → Gone history
  | deleted {clock : Instant} {taskId : String} {configId : Option String} {before after : History} :
    StandsFor taskId configId key → Untouched key after →
      Gone (before ++ (clock, .delete taskId configId) :: after)

/-- The creation time of the record that a history leaves: the original one if the key was never deleted,
    else the time on the clock, in whole milliseconds, of the first set since there was no record. -/
inductive Born : History → Option Instant → Prop
  | original {record : Stored π} {history : History} :
    start = some record → NeverDeleted key history → Born history record.createdAt
  | first {clock : Instant} {taskId : String} {config : PushConfig} {before after : History} :
    Gone key start before → StandsFor taskId config.id key → NeverDeleted key after →
      Born (before ++ (clock, .set taskId config) :: after) (some clock.floorMillis)

/-- The record that a history leaves under a key which started with a given one. -/
inductive Leaves [Payload π] : History → Option (Stored π) → Prop
  | unchanged {history : History} : Untouched key history → Leaves history start
  | deleted {clock : Instant} {taskId : String} {configId : Option String} {before after : History} :
    StandsFor taskId configId key → Untouched key after →
      Leaves (before ++ (clock, .delete taskId configId) :: after) none
  | written {clock : Instant} {taskId : String} {config : PushConfig} {before after : History}
      {createdAt : Option Instant} :
    StandsFor taskId config.id key → Untouched key after →
      Born key start (before ++ (clock, .set taskId config) :: after) createdAt →
      Leaves (before ++ (clock, .set taskId config) :: after)
        (some ⟨createdAt, Payload.write { config with id := some key.configId }⟩)

end

/-! ## One step -/

section

variable {π : Type} {key : ConfigKey} {start : Option (Stored π)} {history : History}

theorem Untouched.snoc {clock : Instant} {operation : Operation} (h : Untouched key history)
    (hop : ¬ operation.Addresses key) : Untouched key (history ++ [(clock, operation)]) := by
  intro entry hentry
  rcases List.mem_append.1 hentry with hold | hnew
  · exact h entry hold
  · rw [List.mem_singleton.1 hnew]
    exact hop

theorem NeverDeleted.snoc {clock : Instant} {operation : Operation} (h : NeverDeleted key history)
    (hop : ¬ operation.Deletes key) : NeverDeleted key (history ++ [(clock, operation)]) := by
  intro entry hentry
  rcases List.mem_append.1 hentry with hold | hnew
  · exact h entry hold
  · rw [List.mem_singleton.1 hnew]
    exact hop

/-- An operation that does not delete the key leaves the creation time alone. -/
theorem Born.snoc {createdAt : Option Instant} {clock : Instant} {operation : Operation}
    (h : Born key start history createdAt) (hop : ¬ operation.Deletes key) :
    Born key start (history ++ [(clock, operation)]) createdAt := by
  cases h with
  | original hstart hnever => exact .original hstart (hnever.snoc hop)
  | first hgone hkey hnever =>
    rw [List.append_assoc]
    exact .first hgone hkey (hnever.snoc hop)

variable [Payload π]

theorem Leaves.gone (h : Leaves key start history none) : Gone key start history := by
  generalize hr : (none : Option (Stored π)) = record at h
  cases h with
  | unchanged hun => exact .never hr.symm hun
  | deleted hkey hafter => exact .deleted hkey hafter
  | written => cases hr

theorem Leaves.born {record : Stored π} (h : Leaves key start history (some record)) :
    Born key start history record.createdAt := by
  generalize hr : some record = r at h
  cases h with
  | unchanged hun => exact .original hr.symm hun.neverDeleted
  | deleted => cases hr
  | written _ _ hborn =>
    cases hr
    exact hborn

theorem Operation.effect_of_not_addresses {operation : Operation} (clock : Instant)
    (record : Option (Stored π)) (h : ¬ operation.Addresses key) :
    operation.effect clock key record = record := by
  cases operation with
  | set taskId config => exact if_neg fun hkey => h (standsFor_iff.2 hkey)
  | list request => rfl
  | delete taskId configId => exact if_neg fun hkey => h (standsFor_iff.2 hkey)

theorem Operation.effect_delete {taskId : String} {configId : Option String} (clock : Instant)
    (record : Option (Stored π)) (h : StandsFor taskId configId key) :
    (Operation.delete taskId configId).effect clock key record = none :=
  if_pos (standsFor_iff.1 h)

theorem Operation.effect_set {taskId : String} {config : PushConfig} (clock : Instant)
    (record : Option (Stored π)) (h : StandsFor taskId config.id key) :
    (Operation.set taskId config).effect clock key record =
      some (Stored.renew clock (Payload.write { config with id := some key.configId }) record) := by
  have hkey := standsFor_iff.1 h
  have hid : resolveConfigId taskId config.id = key.configId := congrArg ConfigKey.configId hkey
  unfold Operation.effect
  dsimp only
  rw [if_pos hkey]
  unfold PushConfig.withDefaultId
  rw [hid]

/-- **What a history leaves and one more operation** is what the longer history leaves. -/
theorem Leaves.step {record : Option (Stored π)} (h : Leaves key start history record)
    (clock : Instant) (operation : Operation) :
    Leaves key start (history ++ [(clock, operation)]) (operation.effect clock key record) := by
  by_cases hop : operation.Addresses key
  · cases operation with
    | list request => exact absurd hop id
    | delete taskId configId =>
      rw [Operation.effect_delete clock record hop]
      exact .deleted hop (untouched_nil key)
    | set taskId config =>
      rw [Operation.effect_set clock record hop]
      -- Only where there is no record does the creation time come from the clock.
      cases record with
      | none =>
        exact .written hop (untouched_nil key) (.first h.gone hop (untouched_nil key).neverDeleted)
      | some old =>
        exact .written hop (untouched_nil key) (h.born.snoc id)
  · rw [Operation.effect_of_not_addresses clock record hop]
    cases h with
    | unchanged hun => exact .unchanged (hun.snoc hop)
    | deleted hkey hafter =>
      rw [List.append_assoc]
      exact .deleted hkey (hafter.snoc hop)
    | written hkey hafter hborn =>
      -- The set that wrote the record is no longer last, so its history is split anew.
      have hlonger := @Born.snoc _ _ _ _ _ clock operation hborn fun h => hop h.addresses
      rw [List.append_assoc] at hlonger ⊢
      exact .written hkey (hafter.snoc hop) hlonger

end

/-! ## Runs -/

section

variable {σ π : Type} [Payload π] [ConfigStore σ] [RecordStore σ π] [LawfulStore σ π]
variable {key : ConfigKey} {store : σ} {history : History}

/-- **Every run leaves what it should** under every key. -/
theorem leaves_run (key : ConfigKey) (store : σ) (history : History) :
    Leaves key (get? key store) history (get? key (storeAfter history store)) := by
  -- From what is already done, one step for each operation still to come.
  have hsteps : ∀ (rest done : History),
      Leaves key (get? key store) done (get? key (storeAfter done store)) →
        Leaves key (get? key store) (done ++ rest) (get? key (storeAfter (done ++ rest) store)) := by
    intro rest
    induction rest with
    | nil =>
      intro done h
      rw [List.append_nil]
      exact h
    | cons entry rest ih =>
      intro done h
      have hstep := h.step entry.1 entry.2
      rw [← get?_perform] at hstep
      have hdone := ih (done ++ [entry]) (by rw [storeAfter_append]; exact hstep)
      rw [List.append_assoc] at hdone
      exact hdone
  exact hsteps history [] (.unchanged (untouched_nil key))

theorem get?_of_untouched (h : Untouched key history) :
    get? key (storeAfter history store) = get? key store := by
  induction history generalizing store with
  | nil => rfl
  | cons entry rest ih =>
    rw [storeAfter_cons, ih fun e he => h e (List.mem_cons_of_mem _ he), get?_perform,
      Operation.effect_of_not_addresses _ _ (h entry List.mem_cons_self)]

/-- **A record keeps its creation time** until its key is deleted. -/
theorem createdAt_of_neverDeleted {createdAt : Option Instant} {payload : π}
    (hrecord : get? key store = some ⟨createdAt, payload⟩) (h : NeverDeleted key history) :
    ∃ payload', get? key (storeAfter history store) = some ⟨createdAt, payload'⟩ := by
  induction history generalizing store payload with
  | nil => exact ⟨payload, hrecord⟩
  | cons entry rest ih =>
    obtain ⟨clock, operation⟩ := entry
    have hrest : NeverDeleted key rest := fun e he => h e (List.mem_cons_of_mem _ he)
    have hnext : ∃ payload', get? key (perform clock operation store).store =
        some ⟨createdAt, payload'⟩ := by
      rw [get?_perform, hrecord]
      by_cases hop : operation.Addresses key
      · cases operation with
        | list request => exact absurd hop id
        | set taskId config =>
          rw [Operation.effect_set _ _ hop]
          exact ⟨_, rfl⟩
        | delete taskId configId => exact absurd hop (h _ List.mem_cons_self)
      · rw [Operation.effect_of_not_addresses _ _ hop]
        exact ⟨payload, rfl⟩
    obtain ⟨payload', hpayload⟩ := hnext
    exact ih hpayload hrest

theorem get?_of_gone (h : Gone key (get? key store) history) :
    get? key (storeAfter history store) = none := by
  cases h with
  | never hstart hun => rw [get?_of_untouched hun, hstart]
  | deleted hkey hafter =>
    rw [storeAfter_append, storeAfter_cons, get?_of_untouched hafter, get?_perform,
      Operation.effect_delete _ _ hkey]

theorem createdAt_of_born {createdAt : Option Instant}
    (h : Born key (get? key store) history createdAt) :
    ∃ payload, get? key (storeAfter history store) = some ⟨createdAt, payload⟩ := by
  cases h with
  | original hstart hnever => exact createdAt_of_neverDeleted hstart hnever
  | @first clock taskId config before after hgone hkey hnever =>
    rw [storeAfter_append, storeAfter_cons]
    have hset := get?_perform clock (.set taskId config) key (storeAfter before store)
    rw [get?_of_gone hgone, Operation.effect_set _ _ hkey] at hset
    exact createdAt_of_neverDeleted hset hnever

/-- **Whatever a history may leave is in the store.** -/
theorem get?_of_leaves {record : Option (Stored π)} (h : Leaves key (get? key store) history record) :
    get? key (storeAfter history store) = record := by
  cases h with
  | unchanged hun => exact get?_of_untouched hun
  | deleted hkey hafter => exact get?_of_gone (.deleted hkey hafter)
  | @written clock taskId config before after createdAt hkey hafter hborn =>
    -- The set gives the payload; the creation time is the one that the history tells.
    obtain ⟨payload, hpayload⟩ := createdAt_of_born hborn
    rw [storeAfter_append, storeAfter_cons, get?_of_untouched hafter, get?_perform,
      Operation.effect_set _ _ hkey] at hpayload ⊢
    cases hold : get? key (storeAfter before store) with
    | none =>
      rw [hold] at hpayload
      cases hpayload
      rfl
    | some old =>
      rw [hold] at hpayload
      cases hpayload
      rfl

/-- The record under a key after a run is exactly what the history leaves. -/
theorem get?_run_iff {record : Option (Stored π)} :
    get? key (storeAfter history store) = record ↔ Leaves key (get? key store) history record := by
  constructor
  · rintro rfl
    exact leaves_run key store history
  · exact get?_of_leaves

/-- One operation leaves every record alone that it does not address. -/
theorem get?_perform_of_not_addresses {clock : Instant} {operation : Operation}
    (h : ¬ operation.Addresses key) :
    get? key (perform clock operation store).store = get? key store := by
  rw [get?_perform, Operation.effect_of_not_addresses _ _ h]

end

/-! ## Both stores -/

/-- **What the stores hold after any history**: no key twice, and under each key exactly what the history
    leaves there, whatever the payloads and the times at the start and on the clock. A single operation
    changes no record that it does not address, and a config that cannot be written changes none. -/
theorem holdings_after_run (db : Database) (memory : Memory) (history : History)
    (hdb : db.table.keys.Nodup) (hmemory : memory.Unique) :
    ((storeAfter history db).table.keys.Nodup ∧
      ∀ key record, (storeAfter history db).table.get? key = record ↔
        Leaves key (db.table.get? key) history record) ∧
    ((storeAfter history memory).Unique ∧
      ∀ key record, (storeAfter history memory).get? key = record ↔
        Leaves key (memory.get? key) history record) ∧
    (∀ clock (operation : Operation) key, ¬ operation.Addresses key →
      (perform clock operation db).store.table.get? key = db.table.get? key ∧
      (perform clock operation memory).store.get? key = memory.get? key) ∧
    (∀ writer clock taskId (config : PushConfig), writer (config.withDefaultId taskId) = none →
      (db.setWith writer clock taskId config).store = db) := by
  have hdbUnique : RecordStore.Unique (storeAfter history db) := unique_run hdb history
  have hmemoryUnique : RecordStore.Unique (storeAfter history memory) := unique_run hmemory history
  refine ⟨⟨hdbUnique, fun key record => ?_⟩, ⟨hmemoryUnique, fun key record => ?_⟩,
    fun clock operation key hop => ⟨?_, ?_⟩, fun writer clock taskId config hwriter => ?_⟩
  · rw [← Database.record_eq, ← Database.record_eq]
    exact get?_run_iff
  · rw [← Memory.record_eq, ← Memory.record_eq]
    exact get?_run_iff
  · rw [← Database.record_eq, ← Database.record_eq]
    exact get?_perform_of_not_addresses hop
  · rw [← Memory.record_eq, ← Memory.record_eq]
    exact get?_perform_of_not_addresses hop
  · unfold Database.setWith
    dsimp only
    rw [hwriter]

/-- A row without a time and with an unreadable payload is updated and keeps its missing time; a row that
    is deleted and set again, once without an id, gets the time of its first set since. -/
theorem holdings_after_update_and_reinsert :
    let config : PushConfig := ⟨"https://example.org", none, none, none⟩
    let clock : Instant := ⟨-1500, by decide, by decide⟩
    let db : Database :=
      ⟨10, [(⟨"t", "a:b"⟩, ⟨none, "not JSON"⟩), (⟨"t", "t"⟩, ⟨some .epoch, "{}"⟩)]⟩
    let history : History :=
      [(.epoch, .set "t" { config with id := some "a:b" }), (.epoch, .delete "t" (some "")),
        (clock, .set "t" config), (.epoch, .list ⟨"t", 1, some "no token", ""⟩),
        (.epoch, .set "t" { config with id := some "t", token := some "x" })]
    db.table.keys.Nodup ∧
      (storeAfter history db).table.get? ⟨"t", "a:b"⟩ =
        some ⟨none, Schema.writeText { config with id := some "a:b" }⟩ ∧
      (storeAfter history db).table.get? ⟨"t", "t"⟩ =
        some ⟨some ⟨-2000, by decide, by decide⟩,
          Schema.writeText { config with id := some "t", token := some "x" }⟩ := by
  intro config clock db history
  have hnodup : db.table.keys.Nodup := by decide
  have hmemory : (⟨10, []⟩ : Memory).Unique := ⟨List.nodup_nil, nofun⟩
  have hholds := (holdings_after_run db ⟨10, []⟩ history hnodup hmemory).1.2
  refine ⟨hnodup, (hholds _ _).2 ?_, (hholds _ _).2 ?_⟩
  · have hborn : Born ⟨"t", "a:b"⟩ (db.table.get? ⟨"t", "a:b"⟩) history none :=
      .original (show _ = some ⟨none, "not JSON"⟩ from rfl) (by decide)
    exact .written (.given (by decide)) (by decide) (show Born _ _ ([] ++ history) none from hborn)
  · have hgone : Gone ⟨"t", "t"⟩ (db.table.get? ⟨"t", "t"⟩)
        ([(.epoch, .set "t" { config with id := some "a:b" })] ++
          (.epoch, .delete "t" (some "")) :: []) := .deleted .empty (untouched_nil _)
    have hborn : Born ⟨"t", "t"⟩ (db.table.get? ⟨"t", "t"⟩)
        ((history.take 2 ++ (clock, .set "t" config) :: history.drop 3))
        (some clock.floorMillis) := .first hgone .missing (by decide)
    exact .written (show StandsFor "t" (some "t") _ from .given (by decide)) (untouched_nil _)
      (show Born _ _ (history.take 4 ++ (.epoch, _) :: []) _ from hborn)

end WebhookRegistry
