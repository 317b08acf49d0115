/-
  The collections in memory as a store of records.

  The records of a task are its collection. A task whose collection becomes empty is dropped, which the
  view cannot tell from an empty collection (`configsOf_putTask`). Sorting by milliseconds gives the order
  of the places because all times are whole milliseconds; that is the one law that needs a tidy store.
-/
import WebhookRegistry.Proofs.Store.Records
import WebhookRegistry.Store.Memory

namespace WebhookRegistry

/-- Payloads as configs. -/
instance : Payload PushConfig where
  write := id
  read := .ok
  read_write _ := rfl

/-- Configs are read as they are. -/
theorem Record.readAll_configs (taskId : String) (records : List (Record PushConfig)) :
    Record.readAll taskId records = .ok (records.map fun record => record.2.payload) := by
  rw [Record.readAll_eq_ok_iff, List.map_map]
  rfl

namespace Memory

/-- Whether neither a task comes twice nor an id in a task. -/
def Unique (memory : Memory) : Prop :=
  memory.tasks.keys.Nodup ∧ ∀ entry ∈ memory.tasks, entry.2.keys.Nodup

instance (memory : Memory) : Decidable memory.Unique := inferInstanceAs (Decidable (_ ∧ _))

instance : RecordStore Memory PushConfig where
  maxPageSize memory := memory.maxPageSize
  recordsOf := configsOf
  Unique := Unique
  limitFault? _ _ := none
  pageRecords := pageEntries

/-- The record under a key is what the collections hold. -/
@[simp] theorem record_eq (key : ConfigKey) (memory : Memory) :
    RecordStore.get? key memory = memory.get? key := rfl

theorem nodup_keys_configsOf (taskId : String) {memory : Memory} (h : memory.Unique) :
    (memory.configsOf taskId).keys.Nodup := by
  unfold configsOf
  cases hconfigs : memory.tasks.get? taskId with
  | none => exact List.nodup_nil
  | some configs => exact h.2 _ (Entries.mem_of_get? hconfigs)

/-! ## Writing -/

/-- **A task gets its collection**; an empty one looks like none. -/
theorem configsOf_putTask (maxPageSize : Int) (taskId other : String) (configs : TaskConfigs)
    (tasks : Entries String TaskConfigs) :
    configsOf other ⟨maxPageSize, putTask taskId configs tasks⟩ =
      if taskId = other then configs else configsOf other ⟨maxPageSize, tasks⟩ := by
  unfold configsOf putTask
  cases configs with
  | nil =>
    rw [if_pos List.isEmpty_nil]
    dsimp only
    rw [Entries.get?_erase]
    by_cases h : taskId = other
    · rw [if_pos h, if_pos h]
      rfl
    · rw [if_neg h, if_neg h]
  | cons entry rest =>
    rw [if_neg (by simp)]
    dsimp only
    rw [Entries.get?_put]
    by_cases h : taskId = other
    · rw [if_pos h, if_pos h]
      rfl
    · rw [if_neg h, if_neg h]

/-- **A config is put** into a collection as a record that is renewed. -/
theorem putConfig_eq (clock : Instant) (configId : String) (config : PushConfig)
    (configs : TaskConfigs) :
    (putConfig clock configId config configs).1 =
      configs.put configId (Stored.renew clock config (configs.get? configId)) := by
  unfold putConfig
  cases configs.get? configId <;> rfl

/-- **A set puts one config** under the key that it addresses. -/
theorem set_eq (clock : Instant) (taskId : String) (config : PushConfig) (memory : Memory) :
    (memory.set clock taskId config).answer = .ok (config.withDefaultId taskId) ∧
      (memory.set clock taskId config).store =
        { memory with
          tasks := memory.tasks.put taskId (putConfig clock (resolveConfigId taskId config.id)
            (config.withDefaultId taskId) (memory.configsOf taskId)).1 } := by
  have hid : resolveConfigId taskId (config.withDefaultId taskId).id =
      resolveConfigId taskId config.id :=
    congrArg ConfigKey.configId (ConfigKey.resolve_withDefaultId taskId config)
  rw [← hid]
  exact ⟨rfl, rfl⟩

/-- **A set puts one record** into the collection of its task and touches no other. -/
theorem configsOf_set (clock : Instant) (taskId other : String) (config : PushConfig)
    (memory : Memory) :
    (memory.set clock taskId config).store.configsOf other =
      if taskId = other then
        let id := resolveConfigId taskId config.id
        (memory.configsOf other).put id
          (Stored.renew clock (config.withDefaultId taskId) ((memory.configsOf other).get? id))
      else memory.configsOf other := by
  rw [(set_eq clock taskId config memory).2, putConfig_eq]
  show ((memory.tasks.put taskId _).get? other).getD [] = _
  rw [Entries.get?_put]
  by_cases htask : taskId = other
  · rw [if_pos htask, if_pos htask, htask]
    rfl
  · rw [if_neg htask, if_neg htask]
    rfl

/-- **A delete erases one id** from the collection of its task and touches no other. -/
theorem configsOf_delete (taskId other : String) (configId : Option String) (memory : Memory) :
    (memory.delete taskId configId).store.configsOf other =
      if taskId = other then (memory.configsOf other).erase (resolveConfigId taskId configId)
      else memory.configsOf other := by
  unfold delete
  dsimp only
  rw [configsOf_putTask]
  by_cases htask : taskId = other
  · rw [if_pos htask, if_pos htask, htask]
    rfl
  · rw [if_neg htask, if_neg htask]

/-- What the view of a task shows after a set. -/
theorem get?_set (clock : Instant) (taskId : String) (config : PushConfig) (key : ConfigKey)
    (memory : Memory) :
    (memory.set clock taskId config).store.get? key =
      (Operation.set taskId config).effect clock key (memory.get? key) := by
  unfold get? Operation.effect
  dsimp only
  rw [configsOf_set]
  -- Another task keeps its collection, and in this one another id keeps its config.
  by_cases htask : taskId = key.taskId
  · rw [if_pos htask]
    dsimp only
    rw [Entries.get?_put]
    by_cases hid : resolveConfigId taskId config.id = key.configId
    · rw [if_pos hid, if_pos (ConfigKey.resolve_eq_iff.2 ⟨htask, hid⟩), hid]
      rfl
    · rw [if_neg hid, if_neg fun h => hid (ConfigKey.resolve_eq_iff.1 h).2]
  · rw [if_neg htask, if_neg fun h => htask (ConfigKey.resolve_eq_iff.1 h).1]

/-- What the view of a task shows after a delete. -/
theorem get?_delete (clock : Instant) (taskId : String) (configId : Option String) (key : ConfigKey)
    (memory : Memory) :
    (memory.delete taskId configId).store.get? key =
      (Operation.delete taskId configId).effect clock key (memory.get? key) := by
  unfold get? Operation.effect
  dsimp only
  rw [configsOf_delete]
  by_cases htask : taskId = key.taskId
  · rw [if_pos htask, Entries.get?_erase]
    by_cases hid : resolveConfigId taskId configId = key.configId
    · rw [if_pos hid, if_pos (ConfigKey.resolve_eq_iff.2 ⟨htask, hid⟩)]
    · rw [if_neg hid, if_neg fun h => hid (ConfigKey.resolve_eq_iff.1 h).2]
  · rw [if_neg htask, if_neg fun h => htask (ConfigKey.resolve_eq_iff.1 h).1]

theorem unique_set (clock : Instant) (taskId : String) (config : PushConfig) {memory : Memory}
    (h : memory.Unique) : (memory.set clock taskId config).store.Unique := by
  rw [(set_eq clock taskId config memory).2]
  refine ⟨Entries.nodup_keys_put h.1, fun entry hentry => ?_⟩
  rcases Entries.mem_put hentry with rfl | hold
  · dsimp only
    rw [putConfig_eq]
    exact Entries.nodup_keys_put (nodup_keys_configsOf taskId h)
  · exact h.2 entry hold

theorem unique_delete (taskId : String) (configId : Option String) {memory : Memory}
    (h : memory.Unique) : (memory.delete taskId configId).store.Unique := by
  unfold delete putTask
  dsimp only
  -- The task is dropped with its last config.
  split
  · exact ⟨Entries.nodup_keys_erase h.1, fun entry hentry => h.2 entry (List.mem_filter.1 hentry).1⟩
  · refine ⟨Entries.nodup_keys_put h.1, fun entry hentry => ?_⟩
    rcases Entries.mem_put hentry with rfl | hold
    · exact Entries.nodup_keys_erase (nodup_keys_configsOf taskId h)
    · exact h.2 entry hold

/-! ## Listing -/

/-- **The page sorted by milliseconds is the page that is due** if all times are whole milliseconds. -/
theorem pageRecords_eq (request : ListRequest) {memory : Memory} (h : RecordStore.Tidy memory) :
    memory.pageEntries request = RecordStore.duePage request memory := by
  have hexact : ∀ entry ∈ memory.configsOf request.id, (position entry).IsExact := by
    rintro ⟨id, stored⟩ hentry
    have hget := (Entries.mem_iff_get? (nodup_keys_configsOf request.id h.unique)).1 hentry
    exact h.exact ⟨request.id, id⟩ stored hget
  unfold pageEntries RecordStore.duePage
  cases PageToken.decode request.pageToken with
  | error fault => rfl
  | ok cursor =>
    dsimp only
    rw [Keyset.listing_eq_ordered hexact]
    rfl

/-- A page of a collection that lies in order is cut off it as it lies. -/
theorem pageEntries_of_sorted {request : ListRequest} {memory : Memory} {cursor : Option Cursor}
    {entries : TaskConfigs} (hcursor : PageToken.decode request.pageToken = .ok cursor)
    (hentries :
      (memory.configsOf request.id).filter (fun e => (position e).isAfter cursor) = entries)
    (hsorted : entries.Pairwise fun a b =>
      Position.keyLe (position a).sortKey (position b).sortKey = true) :
    memory.pageEntries request =
      .ok (Keyset.cut position (request.effectivePageSize memory.maxPageSize).toNat entries) := by
  have hlisting : Keyset.listing position cursor (memory.configsOf request.id) = entries := by
    unfold Keyset.listing
    rw [hentries]
    exact List.mergeSort_of_pairwise hsorted
  unfold pageEntries
  rw [hcursor]
  dsimp only
  rw [hlisting]

/-- Collections make pages of any size. -/
theorem takes (request : ListRequest) (memory : Memory) : RecordStore.Takes request memory := rfl

instance : LawfulStore Memory PushConfig where
  nodup_keys_recordsOf taskId _ h := nodup_keys_configsOf taskId h
  unique_empty _ := ⟨List.nodup_nil, nofun⟩
  maxPageSize_empty _ := rfl
  get?_empty _ _ := rfl
  answer_set clock taskId config memory := (set_eq clock taskId config memory).1
  unique_set clock taskId config _ h := unique_set clock taskId config h
  maxPageSize_set _ _ _ _ := rfl
  get?_set clock taskId config key memory := get?_set clock taskId config key memory
  answer_delete _ _ _ := rfl
  unique_delete taskId configId _ h := unique_delete taskId configId h
  maxPageSize_delete _ _ _ := rfl
  get?_delete clock taskId configId key memory := get?_delete clock taskId configId key memory
  store_list _ _ := rfl
  answer_list := by
    intro request memory
    show memory.page request = RecordStore.shown request (memory.pageEntries request)
    unfold page RecordStore.shown
    cases memory.pageEntries request with
    | error failure => rfl
    | ok found =>
      dsimp only
      rw [Record.readAll_configs]
      rfl
  pageRecords_eq request _ h := pageRecords_eq request h

/-- Collections are healthy if neither a task nor an id comes twice: their payloads are configs. -/
theorem healthy_of_unique {memory : Memory} (hunique : memory.Unique) (hmax : 1 ≤ memory.maxPageSize) :
    RecordStore.Healthy memory :=
  ⟨hunique, hmax, fun _ record _ => ⟨record.payload, rfl⟩⟩

/-- Collections are sound if neither a task nor an id comes twice and all times are whole milliseconds or
    missing. -/
theorem sound_of_entries {memory : Memory} (hunique : memory.Unique) (hmax : 1 ≤ memory.maxPageSize)
    (htimes : ∀ task ∈ memory.tasks, ∀ entry ∈ task.2, (position entry).IsExact) :
    RecordStore.Sound memory where
  unique := hunique
  one_le_maxPageSize := hmax
  readable _ record _ := ⟨record.payload, rfl⟩
  exact key record hrecord := by
    rw [record_eq] at hrecord
    unfold get? configsOf at hrecord
    cases htask : memory.tasks.get? key.taskId with
    | none =>
      rw [htask] at hrecord
      cases hrecord
    | some configs =>
      rw [htask] at hrecord
      exact htimes _ (Entries.mem_of_get? htask) _ (Entries.mem_of_get? hrecord)

end Memory

end WebhookRegistry
