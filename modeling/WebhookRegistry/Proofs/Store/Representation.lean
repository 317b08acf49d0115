/-
  The shape of every store that started empty.

  A store holds nothing but what its operations have written, so what a set writes is what there is:

  1. **One record** (`WellKept`): its payload is a config with the id of the key, its time is a whole
     number of milliseconds, and only a task without an id has a config without one. A set writes such
     records and no operation spoils one (`WellKept.effect`), so after any history all of them are well
     kept (`kept_run`).

  2. **One collection**: a set leaves a config in the collection of its task and a delete drops a
     collection that it empties, so no task has an empty one (`Memory.NoneEmpty.run`).

  `Memory.WellFormed` and `Database.WellFormed` say both of what a store really holds, entry by entry and
  row by row. In a well-formed table every row can be read, so listing never fails on a config.
-/
import WebhookRegistry.Proofs.Store.Holdings

namespace WebhookRegistry

open RecordStore

/-! ## One record -/

/-- Whether a record is what a set writes under a key. -/
structure WellKept {π : Type} [Payload π] (key : ConfigKey) (record : Stored π) : Prop where
  config : ∃ config, Payload.read record.payload = .ok config ∧ config.id = some key.configId
  time : ∃ time, record.createdAt = some time ∧ time.IsWholeMillis
  named : key.taskId ≠ "" → key.configId ≠ ""

/-- **Only a task without an id has a config without one**: the id of the task takes the place of a
    missing one. -/
theorem StandsFor.named {taskId : String} {configId : Option String} {key : ConfigKey}
    (h : StandsFor taskId configId key) (htask : key.taskId ≠ "") : key.configId ≠ "" := by
  cases h with
  | given hne => exact hne
  | missing => exact htask
  | empty => exact htask

section

variable {π : Type} [Payload π] {key : ConfigKey}

/-- What a set writes is well kept, whatever well-kept record it renews. -/
theorem WellKept.renew {taskId : String} {config : PushConfig} {before : Option (Stored π)}
    (hkey : StandsFor taskId config.id key)
    (h : ∀ record, before = some record → WellKept key record) (clock : Instant) :
    WellKept key
      (Stored.renew clock (Payload.write { config with id := some key.configId }) before) := by
  cases before with
  | none =>
    refine ⟨⟨_, Payload.read_write _, rfl⟩, ⟨clock.floorMillis, rfl, ?_⟩, hkey.named⟩
    exact clock.isWholeMillis_floorMillis
  | some old =>
    have hold := h old rfl
    exact ⟨⟨_, Payload.read_write _, rfl⟩, hold.time, hkey.named⟩

/-- **No operation spoils a record.** -/
theorem WellKept.effect {before : Option (Stored π)}
    (h : ∀ record, before = some record → WellKept key record) (clock : Instant)
    (operation : Operation) {record : Stored π}
    (hrecord : operation.effect clock key before = some record) : WellKept key record := by
  by_cases hop : operation.Addresses key
  · cases operation with
    | list request => exact absurd hop id
    | set taskId config =>
      rw [Operation.effect_set clock before hop] at hrecord
      cases hrecord
      exact WellKept.renew hop h clock
    | delete taskId configId =>
      rw [Operation.effect_delete clock before hop] at hrecord
      cases hrecord
  · rw [Operation.effect_of_not_addresses clock before hop] at hrecord
    exact h record hrecord

end

/-- Whether every record of a store is well kept. -/
def RecordStore.Kept {σ π : Type} [Payload π] [RecordStore σ π] (store : σ) : Prop :=
  ∀ key record, get? key store = some record → WellKept key record

section

variable {σ π : Type} [Payload π] [ConfigStore σ] [RecordStore σ π] [LawfulStore σ π]

theorem kept_empty (size : Int) : Kept (ConfigStore.empty size : σ) := by
  intro key record hrecord
  rw [LawfulStore.get?_empty] at hrecord
  cases hrecord

theorem RecordStore.Kept.perform {store : σ} (h : Kept store) (clock : Instant)
    (operation : Operation) : Kept (perform clock operation store).store := by
  intro key record hrecord
  rw [get?_perform] at hrecord
  exact WellKept.effect (h key) clock operation hrecord

/-- **After any history every record is well kept** if the store started empty. -/
theorem kept_run (size : Int) (history : History) :
    Kept (storeAfter history (ConfigStore.empty size : σ)) :=
  holds_storeAfter (fun clock operation _ hs => hs.perform clock operation) history (kept_empty size)

end

/-! ## The collections in memory -/

namespace Memory

/-- Whether no task has an empty collection. -/
def NoneEmpty (memory : Memory) : Prop := ∀ task ∈ memory.tasks, task.2 ≠ []

/-- **No operation leaves a task with an empty collection.** -/
theorem NoneEmpty.perform {memory : Memory} (h : memory.NoneEmpty) (clock : Instant)
    (operation : Operation) : NoneEmpty (perform clock operation memory).store := by
  cases operation with
  | list request => exact h
  | set taskId config =>
    intro task htask
    have hput : task ∈ (memory.set clock taskId config).store.tasks := htask
    rw [(set_eq clock taskId config memory).2, putConfig_eq] at hput
    rcases Entries.mem_put hput with hnew | hold
    · rw [hnew]
      exact Entries.put_ne_nil _ _ _
    · exact h task hold
  | delete taskId configId =>
    intro task htask
    have hput : task ∈ putTask taskId _ memory.tasks := htask
    unfold putTask at hput
    split at hput
    · exact h task (List.mem_filter.1 hput).1
    · rename_i hempty
      rcases Entries.mem_put hput with hnew | hold
      · rw [hnew]
        exact fun hnil => hempty (List.isEmpty_iff.2 hnil)
      · exact h task hold

theorem noneEmpty_empty (size : Int) : NoneEmpty (ConfigStore.empty size) :=
  fun _ htask => absurd htask List.not_mem_nil

theorem NoneEmpty.run {memory : Memory} (h : memory.NoneEmpty) (history : History) :
    NoneEmpty (storeAfter history memory) :=
  holds_storeAfter (fun clock operation _ hs => hs.perform clock operation) history h

/-- An entry of a collection is seen under its key if no key comes twice. -/
theorem get?_of_mem {memory : Memory} (h : memory.Unique) {task : String × TaskConfigs}
    (htask : task ∈ memory.tasks) {entry : String × Stored PushConfig} (hentry : entry ∈ task.2) :
    memory.get? ⟨task.1, entry.1⟩ = some entry.2 := by
  have hconfigs : memory.tasks.get? task.1 = some task.2 := (Entries.mem_iff_get? h.1).1 htask
  have hrecord : Entries.get? entry.1 task.2 = some entry.2 :=
    (Entries.mem_iff_get? (h.2 task htask)).1 hentry
  unfold get? configsOf
  rw [hconfigs]
  exact hrecord

/-- Whether collections are what the operations of a store can make of no collections. -/
structure WellFormed (memory : Memory) : Prop where
  /-- Neither a task comes twice nor an id in a task. -/
  unique : memory.Unique
  /-- No task has an empty collection. -/
  noneEmpty : ∀ task ∈ memory.tasks, task.2 ≠ []
  /-- Every config has the id that it is kept under. -/
  id_eq : ∀ task ∈ memory.tasks, ∀ entry ∈ task.2, entry.2.payload.id = some entry.1
  /-- Every config has a time, a whole number of milliseconds. -/
  time : ∀ task ∈ memory.tasks, ∀ entry ∈ task.2,
    ∃ time, entry.2.createdAt = some time ∧ time.IsWholeMillis
  /-- In a task with an id every config has one. -/
  named : ∀ task ∈ memory.tasks, task.1 ≠ "" → ∀ entry ∈ task.2, entry.1 ≠ ""

/-- **Collections that started empty are well formed**, whatever was done to them. -/
theorem wellFormed_run (size : Int) (history : History) :
    WellFormed (storeAfter history (ConfigStore.empty size)) := by
  have hunique : RecordStore.Unique (storeAfter history (ConfigStore.empty size : Memory)) :=
    unique_run (LawfulStore.unique_empty size) history
  have hkept : ∀ task ∈ (storeAfter history (ConfigStore.empty size : Memory)).tasks,
      ∀ entry ∈ task.2, WellKept ⟨task.1, entry.1⟩ entry.2 := by
    intro task htask entry hentry
    have hget := get?_of_mem hunique htask hentry
    rw [← record_eq] at hget
    exact kept_run size history ⟨task.1, entry.1⟩ entry.2 hget
  refine ⟨hunique, NoneEmpty.run (noneEmpty_empty size) history, ?_, ?_, ?_⟩
  · intro task htask entry hentry
    obtain ⟨config, hread, hid⟩ := (hkept task htask entry hentry).config
    cases hread
    exact hid
  · intro task htask entry hentry
    exact (hkept task htask entry hentry).time
  · intro task htask hne entry hentry
    exact (hkept task htask entry hentry).named hne

end Memory

/-! ## The table -/

/-- Whether a failure is an error of the store about one of its configs. -/
def Failure.IsStoreError (failure : Failure) : Prop :=
  ∃ message taskId configId, failure.report = some (.store message taskId configId)

theorem Failure.not_isStoreError_token (fault : PageToken.Fault) :
    ¬ (Failure.token fault).IsStoreError := by
  rintro ⟨message, taskId, configId, hreport⟩
  cases fault <;> cases hreport

theorem Failure.not_isStoreError_limit (fault : Keyset.LimitFault) :
    ¬ (Failure.limit fault).IsStoreError := by
  rintro ⟨message, taskId, configId, hreport⟩
  cases hreport

namespace Database

/-- Whether a table is what the operations of a store can make of an empty one. -/
structure WellFormed (db : Database) : Prop where
  /-- No two rows have one key. -/
  unique : db.table.keys.Nodup
  /-- Every payload can be read, and its config has the id of the row. -/
  readable : ∀ row ∈ db.table, ∃ config, Row.config row = .ok config ∧ config.id = some row.1.configId
  /-- Every row has a time, a whole number of milliseconds. -/
  time : ∀ row ∈ db.table, ∃ time, row.2.createdAt = some time ∧ time.IsWholeMillis
  /-- In a task with an id every config has one. -/
  named : ∀ row ∈ db.table, row.1.taskId ≠ "" → row.1.configId ≠ ""

/-- **A table that started empty is well formed**, whatever was done to it. -/
theorem wellFormed_run (size : Int) (history : History) :
    WellFormed (storeAfter history (ConfigStore.empty size)) := by
  have hunique : RecordStore.Unique (storeAfter history (ConfigStore.empty size : Database)) :=
    unique_run (LawfulStore.unique_empty size) history
  have hkept : ∀ row ∈ (storeAfter history (ConfigStore.empty size : Database)).table,
      WellKept row.1 row.2 := by
    intro row hrow
    have hget := (Entries.mem_iff_get? hunique).1 hrow
    rw [← record_eq] at hget
    exact kept_run size history row.1 row.2 hget
  refine ⟨hunique, ?_, ?_, ?_⟩
  · intro row hrow
    exact (hkept row hrow).config
  · intro row hrow
    exact (hkept row hrow).time
  · intro row hrow
    exact (hkept row hrow).named

/-- No rows are found only for a token that cannot be read or a limit that is not taken. -/
theorem pageRows_eq_error {db : Database} {request : ListRequest} {failure : Failure}
    (h : db.pageRows request = .error failure) :
    (∃ fault, failure = .token fault) ∨ ∃ fault, failure = .limit fault := by
  unfold pageRows at h
  split at h
  · cases h
    exact Or.inl ⟨_, rfl⟩
  · dsimp only at h
    split at h
    · cases h
      exact Or.inr ⟨_, rfl⟩
    · cases h

/-- **Listing a well-formed table never fails on a config**: only the token or the size of a page can be
    refused. -/
theorem WellFormed.not_isStoreError {db : Database} (h : db.WellFormed) {request : ListRequest}
    {failure : Failure} (hfailure : (db.list request).answer = .error failure) :
    ¬ failure.IsStoreError := by
  rw [list_eq] at hfailure
  have hpage : db.readPage request = .error failure := hfailure
  unfold readPage at hpage
  cases hrows : db.pageRows request with
  | error refusal =>
    rw [hrows] at hpage
    cases hpage
    rcases pageRows_eq_error hrows with ⟨fault, rfl⟩ | ⟨fault, rfl⟩
    · exact Failure.not_isStoreError_token fault
    · exact Failure.not_isStoreError_limit fault
  | ok found =>
    obtain ⟨rows, next⟩ := found
    obtain ⟨configs, hconfigs⟩ := exists_readConfigs fun row hrow => by
      have htask := mem_ofTask_of_mem_pageRows hrows row hrow
      obtain ⟨config, hconfig, -⟩ := h.readable row (List.mem_filter.1 htask).1
      exact ⟨config, hconfig⟩
    rw [hrows] at hpage
    dsimp only at hpage
    rw [hconfigs] at hpage
    cases hpage

end Database

/-! ## Both stores -/

/-- **What every reachable store looks like**: collections that started empty stay well formed, and so
    does a table, in which a config that cannot be written leaves no trace. Hence listing from such a
    table never fails on a config that it holds. -/
theorem reachable_stores_well_formed (size : Int) (history : History) :
    (storeAfter history (ConfigStore.empty size : Memory)).WellFormed ∧
    (storeAfter history (ConfigStore.empty size : Database)).WellFormed ∧
    (∀ clock taskId config, (Database.setWith (fun _ => none) clock taskId config
        (storeAfter history (ConfigStore.empty size))).store =
      storeAfter history (ConfigStore.empty size)) ∧
    ∀ request failure,
      ((storeAfter history (ConfigStore.empty size : Database)).list request).answer =
        .error failure → ¬ failure.IsStoreError :=
  ⟨Memory.wellFormed_run size history, Database.wellFormed_run size history, fun _ _ _ => rfl,
    fun _ _ hfailure => (Database.wellFormed_run size history).not_isStoreError hfailure⟩

end WebhookRegistry
