/-
  Operations one after another.

  One step: an operation does to each record what its effect says (`get?_perform`), and it keeps a store
  tidy and sound. The run: by induction over the history the same holds of the store after it
  (`Tidy.run`, `Sound.run`). The store after a history is `storeAfter`, which splits where the history
  does.
-/
import WebhookRegistry.Proofs.Store.Records

namespace WebhookRegistry

open RecordStore

/-- Operations in their order, each with its time on the clock. -/
abbrev History := List (Instant × Operation)

/-- The store after a history. -/
def storeAfter {σ : Type} [ConfigStore σ] (history : History) (store : σ) : σ :=
  (run history store).2.1

section

variable {σ : Type} [ConfigStore σ]

@[simp] theorem storeAfter_nil (store : σ) : storeAfter [] store = store := rfl

@[simp] theorem storeAfter_cons (clock : Instant) (operation : Operation) (rest : History) (store : σ) :
    storeAfter ((clock, operation) :: rest) store =
      storeAfter rest (perform clock operation store).store := rfl

/-- **What every operation keeps, every history keeps.** -/
theorem holds_storeAfter {P : σ → Prop}
    (hstep : ∀ clock operation (store : σ), P store → P (perform clock operation store).store)
    (history : History) {store : σ} (h : P store) : P (storeAfter history store) := by
  induction history generalizing store with
  | nil => exact h
  | cons entry rest ih => exact ih (hstep entry.1 entry.2 store h)

/-- **Operations run in two parts** as they run at once. -/
theorem storeAfter_append (first second : History) (store : σ) :
    storeAfter (first ++ second) store = storeAfter second (storeAfter first store) := by
  induction first generalizing store with
  | nil => rfl
  | cons entry rest ih =>
    obtain ⟨clock, operation⟩ := entry
    rw [List.cons_append, storeAfter_cons, storeAfter_cons, ih]

end

variable {σ π : Type} [Payload π] [ConfigStore σ] [RecordStore σ π] [LawfulStore σ π]

/-! ## One step -/

/-- **An operation does to each record what its effect says.** -/
theorem get?_perform (clock : Instant) (operation : Operation) (key : ConfigKey) (store : σ) :
    get? key (perform clock operation store).store =
      operation.effect clock key (get? key store) := by
  cases operation with
  | set taskId config => exact LawfulStore.get?_set clock taskId config key store
  | list request => exact congrArg (get? key) (LawfulStore.store_list request store)
  | delete taskId configId => exact LawfulStore.get?_delete clock taskId configId key store

theorem unique_perform (clock : Instant) (operation : Operation) {store : σ} (h : Unique store) :
    Unique (perform clock operation store).store := by
  cases operation with
  | set taskId config => exact LawfulStore.unique_set clock taskId config h
  | list request =>
    show Unique (ConfigStore.list request store).store
    rw [LawfulStore.store_list]
    exact h
  | delete taskId configId => exact LawfulStore.unique_delete taskId configId h

theorem maxPageSize_perform (clock : Instant) (operation : Operation) (store : σ) :
    maxPageSize (perform clock operation store).store = maxPageSize store := by
  cases operation with
  | set taskId config => exact LawfulStore.maxPageSize_set clock taskId config store
  | list request => exact congrArg maxPageSize (LawfulStore.store_list request store)
  | delete taskId configId => exact LawfulStore.maxPageSize_delete taskId configId store

/-- **Two stores answer alike if they list alike**: what they hold has no part in the answers to a set
    and to a delete. -/
theorem answer_perform_congr {σ π τ ρ : Type} [Payload π] [ConfigStore σ] [RecordStore σ π]
    [LawfulStore σ π] [Payload ρ] [ConfigStore τ] [RecordStore τ ρ] [LawfulStore τ ρ]
    (clock : Instant) (operation : Operation) {s : σ} {t : τ}
    (hlist : ∀ request, operation = .list request →
      (ConfigStore.list request s).answer = (ConfigStore.list request t).answer) :
    (perform clock operation s).answer = (perform clock operation t).answer := by
  cases operation with
  | set taskId config =>
    show Except.map _ (ConfigStore.set clock taskId config s).answer =
      Except.map _ (ConfigStore.set clock taskId config t).answer
    rw [LawfulStore.answer_set, LawfulStore.answer_set]
  | list request => exact congrArg (Except.map _) (hlist request rfl)
  | delete taskId configId =>
    show Except.map _ (ConfigStore.delete taskId configId s).answer =
      Except.map _ (ConfigStore.delete taskId configId t).answer
    rw [LawfulStore.answer_delete, LawfulStore.answer_delete]

/-- A record after an operation was there before, or its payload was written by the operation; then its
    creation time is the one before or the time on the clock. -/
theorem effect_cases {clock : Instant} {operation : Operation} {key : ConfigKey}
    {before : Option (Stored π)} {record : Stored π}
    (h : operation.effect clock key before = some record) :
    before = some record ∨ ∃ config, record.payload = Payload.write config ∧
      (record.createdAt = some clock.floorMillis ∨
        ∃ old, before = some old ∧ record.createdAt = old.createdAt) := by
  cases operation with
  | list request => exact Or.inl h
  | set taskId config =>
    unfold Operation.effect at h
    dsimp only at h
    split at h
    · cases h
      -- The key is the one that the operation sets.
      refine Or.inr ⟨config.withDefaultId taskId, ?_⟩
      cases before with
      | none => exact ⟨rfl, Or.inl rfl⟩
      | some old => exact ⟨rfl, Or.inr ⟨old, rfl, rfl⟩⟩
    · exact Or.inl h
  | delete taskId configId =>
    unfold Operation.effect at h
    dsimp only at h
    split at h
    · cases h
    · exact Or.inl h

/-- An empty store is tidy. -/
theorem tidy_empty {size : Int} (h : 1 ≤ size) : Tidy (ConfigStore.empty size : σ) where
  unique := LawfulStore.unique_empty size
  one_le_maxPageSize := by
    rw [LawfulStore.maxPageSize_empty]
    exact h
  exact key record hrecord := by
    rw [LawfulStore.get?_empty] at hrecord
    cases hrecord

/-- An empty store is healthy. -/
theorem healthy_empty {size : Int} (h : 1 ≤ size) : Healthy (ConfigStore.empty size : σ) where
  unique := LawfulStore.unique_empty size
  one_le_maxPageSize := by
    rw [LawfulStore.maxPageSize_empty]
    exact h
  readable key record hrecord := by
    rw [LawfulStore.get?_empty] at hrecord
    cases hrecord

/-- **Operations keep a store tidy**: a new time is a whole number of milliseconds. -/
theorem RecordStore.Tidy.perform {store : σ} (h : Tidy store) (clock : Instant)
    (operation : Operation) : Tidy (perform clock operation store).store where
  unique := unique_perform clock operation h.unique
  one_le_maxPageSize := by
    rw [maxPageSize_perform]
    exact h.one_le_maxPageSize
  exact key record hrecord := by
    rw [get?_perform] at hrecord
    rcases effect_cases hrecord with hold | ⟨-, -, hnew | ⟨old, hold, htime⟩⟩
    · exact h.exact key record hold
    · show Instant.IsWholeMillis (record.createdAt.getD .epoch)
      rw [hnew]
      exact clock.isWholeMillis_floorMillis
    · show Instant.IsWholeMillis (record.createdAt.getD .epoch)
      rw [htime]
      exact h.exact key old hold

/-- **Operations keep payloads readable.** -/
theorem RecordStore.Sound.perform {store : σ} (h : Sound store) (clock : Instant)
    (operation : Operation) : Sound (perform clock operation store).store where
  toTidy := h.toTidy.perform clock operation
  readable key record hrecord := by
    rw [get?_perform] at hrecord
    rcases effect_cases hrecord with hold | ⟨config, hpayload, -⟩
    · exact h.readable key record hold
    · exact ⟨config, hpayload ▸ Payload.read_write config⟩

/-! ## Runs -/

theorem unique_run {store : σ} (h : Unique store) (history : History) :
    Unique (storeAfter history store) :=
  holds_storeAfter (fun clock operation _ hs => unique_perform clock operation hs) history h

theorem RecordStore.Tidy.run {store : σ} (h : Tidy store) (history : History) :
    Tidy (storeAfter history store) :=
  holds_storeAfter (fun clock operation _ hs => hs.perform clock operation) history h

theorem RecordStore.Sound.run {store : σ} (h : Sound store) (history : History) :
    Sound (storeAfter history store) :=
  holds_storeAfter (fun clock operation _ hs => hs.perform clock operation) history h

/-! ## The records of a task -/

/-- **The records of a task are those under its keys.** -/
theorem mem_recordsOf {store : σ} (h : Unique store) {taskId id : String} {record : Stored π} :
    (id, record) ∈ recordsOf taskId store ↔ get? ⟨taskId, id⟩ store = some record :=
  Entries.mem_iff_get? (LawfulStore.nodup_keys_recordsOf taskId h)

theorem RecordStore.Tidy.exact_of_mem {store : σ} (h : Tidy store) {taskId : String} {record : Record π}
    (hrecord : record ∈ recordsOf taskId store) : record.position.IsExact :=
  h.exact ⟨taskId, record.1⟩ record.2 ((mem_recordsOf h.unique).1 hrecord)

/-- A record that a cursor has still to come is under its key, and its place follows the cursor. -/
theorem mem_due_iff {store : σ} (h : Tidy store) {taskId : String} {cursor : Option Cursor}
    {record : Record π} :
    record ∈ due taskId cursor store ↔
      get? ⟨taskId, record.1⟩ store = some record.2 ∧ record.position.follows cursor = true := by
  unfold due
  rw [Keyset.mem_ordered]
  exact and_congr_left fun _ => mem_recordsOf h.unique

/-- **The records still to come are strictly ordered.** -/
theorem RecordStore.Tidy.inOrder_due {store : σ} (h : Tidy store) (taskId : String)
    (cursor : Option Cursor) : Keyset.InOrder Record.position (due taskId cursor store) :=
  Keyset.inOrder_ordered (LawfulStore.nodup_keys_recordsOf taskId h.unique)

/-- Records of a healthy store can be read together. -/
theorem RecordStore.Healthy.exists_configs {store : σ} (h : Healthy store) {taskId : String}
    {records : List (Record π)} (hrecords : ∀ record ∈ records, record ∈ recordsOf taskId store) :
    ∃ configs : List PushConfig, records.map Record.config = configs.map .ok := by
  refine Record.exists_configs fun record hrecord => ?_
  exact h.readable ⟨taskId, record.1⟩ record.2 ((mem_recordsOf h.unique).1 (hrecords record hrecord))

end WebhookRegistry
