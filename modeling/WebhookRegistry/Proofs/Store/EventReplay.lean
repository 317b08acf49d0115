/-
  The log tells which keys a store holds.

  Whoever starts with the stored keys and reads the events in order can keep count of them: `persisted`
  adds a key, `deleted` takes one away, and every other event leaves the keys as they are (`replay`).

  1. **One operation** logs at most one outcome, which tells whether its key was stored
     (`Operation.outcome`, `TellingStore`). Replaying it gives the keys after the operation
     (`replay_perform`), and it never calls a key new that was stored, nor the other way about
     (`tells_perform`).

  2. **Every run** (`replay_run`): by induction over the history, replaying all its events gives the keys
     at the end.
-/
import Mathlib.Order.BooleanAlgebra.Set
import WebhookRegistry.Proofs.Store.Holdings

namespace WebhookRegistry

open RecordStore

/-! ## Reading the log -/

namespace Event

/-- The key that the outcome of a set or of a delete names, and whether the outcome says that the key was
    stored before; other events are no outcomes. -/
def wasStored? : Event → Option (ConfigKey × Bool)
  | .persisted key => some (key, false)
  | .updated key => some (key, true)
  | .notFoundForDeletion key => some (key, false)
  | .deleted key => some (key, true)
  | _ => none

/-- Whether an event is an outcome. -/
def isOutcome (event : Event) : Bool := event.wasStored?.isSome

/-- The stored keys after an event. -/
def replay (keys : Set ConfigKey) : Event → Set ConfigKey
  | .persisted key => insert key keys
  | .deleted key => keys \ {key}
  | _ => keys

theorem replay_of_not_isOutcome {event : Event} (keys : Set ConfigKey)
    (h : ¬ event.isOutcome = true) : replay keys event = keys := by
  cases event <;> first | rfl | exact absurd rfl h

/-- **Only outcomes matter** to a reader who keeps count of the keys. -/
theorem foldl_replay_filter (events : List Event) (keys : Set ConfigKey) :
    (events.filter isOutcome).foldl replay keys = events.foldl replay keys := by
  induction events generalizing keys with
  | nil => rfl
  | cons event rest ih =>
    by_cases h : event.isOutcome = true
    · rw [List.filter_cons_of_pos h, List.foldl_cons, List.foldl_cons, ih]
    · rw [List.filter_cons_of_neg h, List.foldl_cons, replay_of_not_isOutcome keys h, ih]

end Event

/-! ## The outcome of an operation -/

namespace Operation

/-- The outcome that an operation logs, by which keys were stored before. -/
def outcome (stored : ConfigKey → Bool) : Operation → List Event
  | .set taskId config =>
    let key := ConfigKey.resolve taskId config.id
    [if stored key then .updated key else .persisted key]
  | .list _ => []
  | .delete taskId configId =>
    let key := ConfigKey.resolve taskId configId
    [if stored key then .deleted key else .notFoundForDeletion key]

/-- The stored keys after an operation. -/
def keysAfter (keys : Set ConfigKey) : Operation → Set ConfigKey
  | .set taskId config => insert (ConfigKey.resolve taskId config.id) keys
  | .list _ => keys
  | .delete taskId configId => keys \ {ConfigKey.resolve taskId configId}

variable {stored : ConfigKey → Bool}

/-- **An outcome says of its key what is the case.** -/
theorem wasStored?_of_mem_outcome {operation : Operation} {event : Event}
    (h : event ∈ operation.outcome stored) :
    ∃ key, event.wasStored? = some (key, stored key) := by
  cases operation with
  | list request => exact absurd h List.not_mem_nil
  | set taskId config =>
    refine ⟨ConfigKey.resolve taskId config.id, ?_⟩
    rw [List.mem_singleton.1 h]
    cases stored (ConfigKey.resolve taskId config.id) <;> rfl
  | delete taskId configId =>
    refine ⟨ConfigKey.resolve taskId configId, ?_⟩
    rw [List.mem_singleton.1 h]
    cases stored (ConfigKey.resolve taskId configId) <;> rfl

/-- A set that is told whether its config is new logs its outcome. -/
theorem outcome_set_of_new {taskId : String} {config : PushConfig} {isNew : Bool}
    (h : isNew = true ↔ stored (ConfigKey.resolve taskId config.id) = false) :
    [if isNew then Event.persisted (ConfigKey.resolve taskId config.id)
      else .updated (ConfigKey.resolve taskId config.id)] =
      (Operation.set taskId config).outcome stored := by
  cases isNew with
  | true => simp [outcome, h.1 rfl]
  | false =>
    have hstored : stored (ConfigKey.resolve taskId config.id) = true :=
      Bool.eq_true_of_not_eq_false fun hnot => Bool.false_ne_true (h.2 hnot)
    simp [outcome, hstored]

theorem filter_outcome (stored : ConfigKey → Bool) (operation : Operation) :
    (operation.outcome stored).filter Event.isOutcome = operation.outcome stored := by
  apply List.filter_eq_self.2
  intro event hevent
  obtain ⟨key, hkey⟩ := wasStored?_of_mem_outcome hevent
  simp [Event.isOutcome, hkey]

/-- **The outcome is what happens to the keys**: a key that was stored is not added, and one that was not
    is not taken away. -/
theorem foldl_replay_outcome {keys : Set ConfigKey} (h : ∀ key, stored key = true ↔ key ∈ keys)
    (operation : Operation) :
    (operation.outcome stored).foldl Event.replay keys = operation.keysAfter keys := by
  cases operation with
  | list request => rfl
  | set taskId config =>
    by_cases hkey : stored (ConfigKey.resolve taskId config.id) = true
    · have hinsert : insert (ConfigKey.resolve taskId config.id) keys = keys :=
        Set.insert_eq_of_mem ((h _).1 hkey)
      simp [outcome, keysAfter, Event.replay, hkey, hinsert]
    · simp [outcome, keysAfter, Event.replay, hkey]
  | delete taskId configId =>
    by_cases hkey : stored (ConfigKey.resolve taskId configId) = true
    · simp [outcome, keysAfter, Event.replay, hkey]
    · have hdiff : keys \ {ConfigKey.resolve taskId configId} = keys :=
        Set.sdiff_singleton_eq_self fun hmem => hkey ((h _).2 hmem)
      simp [outcome, keysAfter, Event.replay, hkey, hdiff]

end Operation

/-- A store whose events tell what becomes of its keys. -/
class TellingStore (σ : Type) (π : outParam Type) [Payload π] [ConfigStore σ] [RecordStore σ π] :
    Prop extends LawfulStore σ π where
  /-- Among the events of an operation there is just its outcome. -/
  outcome_perform : ∀ clock (operation : Operation) (store : σ),
    (perform clock operation store).events.filter Event.isOutcome =
      operation.outcome fun key => (get? key store).isSome

/-! ## The two stores -/

/-- Failing to list is not an outcome. -/
theorem Failure.filter_events (taskId : String) (failure : Failure) :
    (failure.events taskId).filter Event.isOutcome = [] := by
  cases failure with
  | token fault => cases fault <;> rfl
  | limit fault => rfl
  | unwritable key => rfl
  | unreadable key invalid => rfl

namespace Database

theorem events_set (clock : Instant) (taskId : String) (config : PushConfig) (db : Database) :
    (db.set clock taskId config).events =
      .saving (ConfigKey.resolve taskId config.id) ::
        (Operation.set taskId config).outcome fun key => (db.table.get? key).isSome := by
  have hnew : (db.table.upsert clock (ConfigKey.resolve taskId config.id)
      (Schema.writeText (config.withDefaultId taskId))).2 = true ↔
        (db.table.get? (ConfigKey.resolve taskId config.id)).isSome = false := by
    rw [Table.upsert_new_iff, Option.isSome_eq_false_iff, Option.isNone_iff_eq_none]
  show [Event.saving (ConfigKey.resolve taskId (config.withDefaultId taskId).id),
    if (db.table.upsert clock (ConfigKey.resolve taskId (config.withDefaultId taskId).id) _).2 then _
    else _] = _
  rw [ConfigKey.resolve_withDefaultId]
  exact congrArg (_ :: ·) (Operation.outcome_set_of_new hnew)

theorem events_delete (taskId : String) (configId : Option String) (db : Database) :
    (db.delete taskId configId).events =
      .deleting (ConfigKey.resolve taskId configId) ::
        (Operation.delete taskId configId).outcome fun key => (db.table.get? key).isSome := by
  cases hstored : db.table.get? (ConfigKey.resolve taskId configId) <;>
    simp [delete, Operation.outcome, hstored]

theorem filter_listEvents (taskId : String) (answer : Except Failure ConfigPage) :
    (listEvents taskId answer).filter Event.isOutcome = [] := by
  cases answer with
  | ok page => rfl
  | error failure => exact failure.filter_events taskId

end Database

namespace Memory

/-- A config is new exactly when there was none under its id. -/
theorem putConfig_new_iff (clock : Instant) (configId : String) (config : PushConfig)
    (configs : TaskConfigs) :
    (putConfig clock configId config configs).2 = true ↔ configs.get? configId = none := by
  unfold putConfig
  cases configs.get? configId <;> simp

theorem events_set (clock : Instant) (taskId : String) (config : PushConfig) (memory : Memory) :
    (memory.set clock taskId config).events =
      (Operation.set taskId config).outcome fun key => (memory.get? key).isSome := by
  have hnew : (putConfig clock (ConfigKey.resolve taskId config.id).configId
      (config.withDefaultId taskId) (memory.configsOf taskId)).2 = true ↔
        (memory.get? (ConfigKey.resolve taskId config.id)).isSome = false := by
    rw [putConfig_new_iff, Option.isSome_eq_false_iff, Option.isNone_iff_eq_none]
    exact Iff.rfl
  show [if (putConfig clock (ConfigKey.resolve taskId (config.withDefaultId taskId).id).configId _ _).2
    then _ else _] = _
  rw [ConfigKey.resolve_withDefaultId]
  exact Operation.outcome_set_of_new hnew

theorem filter_listEvents (taskId : String) (answer : Except Failure ConfigPage) :
    (listEvents taskId answer).filter Event.isOutcome = [] := by
  cases answer with
  | ok page => rfl
  | error failure =>
    cases failure with
    | token fault => cases fault <;> rfl
    | limit fault => rfl
    | unwritable key => rfl
    | unreadable key invalid => rfl

end Memory

instance : TellingStore Database String where
  outcome_perform := by
    intro clock operation db
    simp only [Database.record_eq]
    cases operation with
    | set taskId config =>
      show (db.set clock taskId config).events.filter _ = _
      rw [Database.events_set]
      exact Operation.filter_outcome _ _
    | list request =>
      show (db.list request).events.filter _ = _
      rw [Database.list_eq]
      exact Database.filter_listEvents request.id (db.readPage request)
    | delete taskId configId =>
      show (db.delete taskId configId).events.filter _ = _
      rw [Database.events_delete]
      exact Operation.filter_outcome _ _

instance : TellingStore Memory PushConfig where
  outcome_perform := by
    intro clock operation memory
    simp only [Memory.record_eq]
    cases operation with
    | set taskId config =>
      show (memory.set clock taskId config).events.filter _ = _
      rw [Memory.events_set]
      exact Operation.filter_outcome _ _
    | list request => exact Memory.filter_listEvents request.id (memory.page request)
    | delete taskId configId =>
      have hevents : (memory.delete taskId configId).events =
          (Operation.delete taskId configId).outcome fun key => (memory.get? key).isSome := rfl
      show (memory.delete taskId configId).events.filter _ = _
      rw [hevents]
      exact Operation.filter_outcome _ _

/-! ## The stored keys -/

/-- The keys under which a store holds a record. -/
def storedKeys {σ π : Type} [RecordStore σ π] (store : σ) : Set ConfigKey :=
  {key | get? key store ≠ none}

/-- Whether the events of an operation tell what becomes of the stored keys: a key that is called new, or
    not found, was absent, one that is called updated or deleted was present, and of a set and of a delete
    there is just one outcome. -/
structure Tells (operation : Operation) (keys : Set ConfigKey) (events : List Event) : Prop where
  absent : ∀ key, .persisted key ∈ events ∨ .notFoundForDeletion key ∈ events → key ∉ keys
  present : ∀ key, .updated key ∈ events ∨ .deleted key ∈ events → key ∈ keys
  set : ∀ taskId config, operation = .set taskId config → ∃ key, StandsFor taskId config.id key ∧
    (events.filter Event.isOutcome = [.persisted key] ∨
      events.filter Event.isOutcome = [.updated key])
  delete : ∀ taskId configId, operation = .delete taskId configId →
    ∃ key, StandsFor taskId configId key ∧
      (events.filter Event.isOutcome = [.notFoundForDeletion key] ∨
        events.filter Event.isOutcome = [.deleted key])
  list : ∀ request, operation = .list request → events.filter Event.isOutcome = []

section

variable {σ π : Type} [Payload π] [ConfigStore σ] [RecordStore σ π] [TellingStore σ π]

theorem storedKeys_perform (clock : Instant) (operation : Operation) (store : σ) :
    storedKeys (perform clock operation store).store = operation.keysAfter (storedKeys store) := by
  ext key
  show get? key (perform clock operation store).store ≠ none ↔ _
  rw [get?_perform]
  cases operation with
  | list request => exact Iff.rfl
  | set taskId config =>
    by_cases hkey : ConfigKey.resolve taskId config.id = key
    · simp [Operation.effect, Operation.keysAfter, hkey]
    · simp [Operation.effect, Operation.keysAfter, storedKeys, hkey, Ne.symm hkey]
  | delete taskId configId =>
    by_cases hkey : ConfigKey.resolve taskId configId = key
    · simp [Operation.effect, Operation.keysAfter, hkey]
    · simp [Operation.effect, Operation.keysAfter, storedKeys, hkey, Ne.symm hkey]

/-- **Replaying the events of an operation gives the keys after it.** -/
theorem replay_perform (clock : Instant) (operation : Operation) (store : σ) :
    (perform clock operation store).events.foldl Event.replay (storedKeys store) =
      storedKeys (perform clock operation store).store := by
  rw [← Event.foldl_replay_filter, TellingStore.outcome_perform, storedKeys_perform]
  exact Operation.foldl_replay_outcome (fun _ => Option.isSome_iff_ne_none) operation

/-- What an event of an operation says of a key was the case before the operation. -/
theorem isSome_get?_of_mem_events {clock : Instant} {operation : Operation} {store : σ} {event : Event}
    {key : ConfigKey} {was : Bool} (hevent : event ∈ (perform clock operation store).events)
    (hsaid : event.wasStored? = some (key, was)) : (get? key store).isSome = was := by
  have houtcome : event.isOutcome = true := by simp [Event.isOutcome, hsaid]
  have hmem : event ∈ operation.outcome fun key => (get? key store).isSome := by
    rw [← TellingStore.outcome_perform clock operation store]
    exact List.mem_filter.2 ⟨hevent, houtcome⟩
  obtain ⟨key', hkey⟩ := Operation.wasStored?_of_mem_outcome hmem
  rw [hsaid] at hkey
  cases hkey
  rfl

/-- **Each operation tells what it does to the keys.** -/
theorem tells_perform (clock : Instant) (operation : Operation) (store : σ) :
    Tells operation (storedKeys store) (perform clock operation store).events := by
  have houtcome := TellingStore.outcome_perform clock operation store
  refine ⟨?_, ?_, ?_, ?_, ?_⟩
  · intro key h hkey
    have hnone : (get? key store).isSome = false := by
      rcases h with h | h
      · exact isSome_get?_of_mem_events h rfl
      · exact isSome_get?_of_mem_events h rfl
    rw [Option.isSome_iff_ne_none.2 hkey] at hnone
    cases hnone
  · intro key h
    have hsome : (get? key store).isSome = true := by
      rcases h with h | h
      · exact isSome_get?_of_mem_events h rfl
      · exact isSome_get?_of_mem_events h rfl
    exact Option.isSome_iff_ne_none.1 hsome
  · rintro taskId config rfl
    refine ⟨ConfigKey.resolve taskId config.id, standsFor_iff.2 rfl, ?_⟩
    rw [houtcome]
    cases hkey : (get? (ConfigKey.resolve taskId config.id) store).isSome with
    | true => exact Or.inr (by simp [Operation.outcome, hkey])
    | false => exact Or.inl (by simp [Operation.outcome, hkey])
  · rintro taskId configId rfl
    refine ⟨ConfigKey.resolve taskId configId, standsFor_iff.2 rfl, ?_⟩
    rw [houtcome]
    cases hkey : (get? (ConfigKey.resolve taskId configId) store).isSome with
    | true => exact Or.inr (by simp [Operation.outcome, hkey])
    | false => exact Or.inl (by simp [Operation.outcome, hkey])
  · rintro request rfl
    exact houtcome

/-! ## Runs -/

/-- **Replaying all events of a run gives the keys at its end.** -/
theorem replay_run (history : History) (store : σ) :
    (run history store).2.2.foldl Event.replay (storedKeys store) =
      storedKeys (storeAfter history store) := by
  induction history generalizing store with
  | nil => rfl
  | cons entry rest ih =>
    obtain ⟨clock, operation⟩ := entry
    show ((perform clock operation store).events ++
      (run rest (perform clock operation store).store).2.2).foldl _ _ = _
    rw [List.foldl_append, replay_perform, ih, storeAfter_cons]

end

/-- **The log tells what both stores hold**: whatever they held at first, replaying the events of a run
    gives the keys at its end, and each operation of a run tells what it does to the keys. -/
theorem log_tells_stored_keys (db : Database) (memory : Memory) (history : History) :
    ((run history db).2.2.foldl Event.replay (storedKeys db) = storedKeys (storeAfter history db) ∧
      ∀ clock operation, Tells operation (storedKeys (storeAfter history db))
        (perform clock operation (storeAfter history db)).events) ∧
    ((run history memory).2.2.foldl Event.replay (storedKeys memory) =
        storedKeys (storeAfter history memory) ∧
      ∀ clock operation, Tells operation (storedKeys (storeAfter history memory))
        (perform clock operation (storeAfter history memory)).events) :=
  ⟨⟨replay_run history db, fun clock operation => tells_perform clock operation _⟩,
    replay_run history memory, fun clock operation => tells_perform clock operation _⟩

end WebhookRegistry
