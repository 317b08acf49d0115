/-
  The table as a store of records.

  The records of a task are its rows by config id, and the view of a task shows what the table shows
  (`get?_recordsOf`). The laws follow from those of the table: an upsert is the effect of setting a
  config, and a page that asks for one row more than it holds is the page cut off all the rows.
-/
import WebhookRegistry.Proofs.PushConfig
import WebhookRegistry.Proofs.Store.ListingLog
import WebhookRegistry.Proofs.Store.Records

namespace WebhookRegistry

/-- Payloads as JSON text. -/
instance : Payload String where
  write := Schema.writeText
  read := Schema.readText
  read_write := PushConfig.readText_writeText

/-- A row as a record of its task. -/
def Row.record (row : Row) : Record String := (row.1.configId, row.2)

namespace Table

/-- The records of a task. -/
def recordsOf (taskId : String) (table : Table) : Entries String (Stored String) :=
  (table.ofTask taskId).map Row.record

theorem recordsOf_cons (taskId : String) (row : Row) (rest : Table) :
    recordsOf taskId (row :: rest) =
      if row.1.taskId = taskId then row.record :: recordsOf taskId rest
      else recordsOf taskId rest := by
  by_cases h : row.1.taskId = taskId <;> simp [recordsOf, ofTask, h]

/-- Keys of one task with one id are one key. -/
theorem key_eq_of_ids {k key : ConfigKey} (htask : k.taskId = key.taskId)
    (hid : k.configId = key.configId) : k = key := by
  cases k
  cases key
  simp_all

/-- **The view of a task shows what the table shows.** -/
theorem get?_recordsOf (key : ConfigKey) (table : Table) :
    (table.recordsOf key.taskId).get? key.configId = table.get? key := by
  induction table with
  | nil => rfl
  | cons row rest ih =>
    obtain ⟨k, stored⟩ := row
    rw [recordsOf_cons, Entries.get?]
    by_cases htask : k.taskId = key.taskId
    · rw [if_pos htask]
      show (if k.configId = key.configId then _ else _) = _
      by_cases hid : k.configId = key.configId
      · rw [if_pos hid, if_pos (key_eq_of_ids htask hid)]
      · rw [if_neg hid, if_neg fun h => hid (congrArg ConfigKey.configId h), ih]
    · rw [if_neg htask, if_neg fun h => htask (congrArg ConfigKey.taskId h), ih]

/-- **A put is seen in the task of its key** and in no other. -/
theorem recordsOf_put (taskId : String) (key : ConfigKey) (stored : Stored String) (table : Table) :
    recordsOf taskId (table.put key stored) =
      if key.taskId = taskId then (recordsOf taskId table).put key.configId stored
      else recordsOf taskId table := by
  induction table with
  | nil => exact recordsOf_cons taskId (key, stored) []
  | cons row rest ih =>
    obtain ⟨k, old⟩ := row
    by_cases hk : k = key
    · rw [Entries.put, if_pos hk, recordsOf_cons, recordsOf_cons, hk]
      by_cases htask : key.taskId = taskId
      · rw [if_pos htask, if_pos htask, if_pos htask]
        show _ = Entries.put key.configId stored ((key.configId, old) :: recordsOf taskId rest)
        rw [Entries.put, if_pos rfl]
        rfl
      · rw [if_neg htask, if_neg htask, if_neg htask]
    · rw [Entries.put, if_neg hk, recordsOf_cons, recordsOf_cons, ih]
      by_cases htask : key.taskId = taskId
      · rw [if_pos htask, if_pos htask]
        by_cases hold : k.taskId = taskId
        · -- Another key of the task has another id.
          have hid : k.configId ≠ key.configId :=
            fun h => hk (key_eq_of_ids (hold.trans htask.symm) h)
          rw [if_pos hold, if_pos hold]
          show _ = Entries.put key.configId stored ((k.configId, old) :: recordsOf taskId rest)
          rw [Entries.put, if_neg hid]
          rfl
        · rw [if_neg hold, if_neg hold]
      · rw [if_neg htask, if_neg htask]

/-- **A key is erased from its task** and from no other. -/
theorem recordsOf_erase (taskId : String) (key : ConfigKey) (table : Table) :
    recordsOf taskId (table.erase key) =
      if key.taskId = taskId then (recordsOf taskId table).erase key.configId
      else recordsOf taskId table := by
  have herase : recordsOf taskId (table.erase key) =
      ((table.ofTask taskId).filter fun row => decide (row.1 ≠ key)).map Row.record := by
    unfold recordsOf ofTask Entries.erase
    rw [List.filter_filter, List.filter_filter]
    simp only [Bool.and_comm]
  have htask : ∀ row ∈ table.ofTask taskId, row.1.taskId = taskId := by
    intro row hrow
    exact of_decide_eq_true (List.mem_filter.1 hrow).2
  rw [herase]
  by_cases h : key.taskId = taskId
  · rw [if_pos h]
    show _ = ((table.ofTask taskId).map Row.record).filter _
    rw [List.filter_map]
    refine congrArg _ (List.filter_congr fun row hrow => decide_eq_decide.2 (not_congr ?_))
    exact ⟨congrArg ConfigKey.configId, key_eq_of_ids ((htask row hrow).trans h.symm)⟩
  · rw [if_neg h]
    refine congrArg _ (List.filter_eq_self.2 fun row hrow => decide_eq_true fun hkey => h ?_)
    rw [← hkey]
    exact htask row hrow

/-- The rows of a task can be told from its records. -/
theorem ofTask_eq (taskId : String) (table : Table) :
    table.ofTask taskId =
      (table.recordsOf taskId).map fun record => (⟨taskId, record.1⟩, record.2) := by
  have hrow : ∀ row ∈ table.ofTask taskId, id row = (⟨taskId, row.1.configId⟩, row.2) := by
    intro row hrow
    rw [← of_decide_eq_true (List.mem_filter.1 hrow).2]
    rfl
  unfold recordsOf
  rw [List.map_map]
  exact (List.map_id _).symm.trans (List.map_congr_left hrow)

/-- In a table without repeated keys no task repeats an id. -/
theorem nodup_keys_recordsOf (taskId : String) {table : Table} (h : table.keys.Nodup) :
    (table.recordsOf taskId).keys.Nodup := by
  have hkeys : (table.ofTask taskId).Pairwise fun a b => a.1 ≠ b.1 :=
    (List.pairwise_map.1 h).filter _
  -- Keys of one task that differ have different ids.
  have hids : (table.ofTask taskId).Pairwise fun a b => a.1.configId ≠ b.1.configId := by
    refine hkeys.imp_of_mem fun {a b} ha hb hne hid => hne ?_
    have hta : a.1.taskId = taskId := of_decide_eq_true (List.mem_filter.1 ha).2
    have htb : b.1.taskId = taskId := of_decide_eq_true (List.mem_filter.1 hb).2
    cases hka : a.1
    cases hkb : b.1
    simp_all
  unfold recordsOf Entries.keys
  rw [List.map_map]
  exact List.pairwise_map.2 hids

/-- **An upsert is one put** of the record as it is renewed. -/
theorem upsert_eq (clock : Instant) (key : ConfigKey) (payload : String) (table : Table) :
    (table.upsert clock key payload).1 =
      table.put key (Stored.renew clock payload (table.get? key)) := by
  unfold upsert
  cases table.get? key <;> rfl

/-- An upsert repeats no key. -/
theorem nodup_keys_upsert (clock : Instant) (key : ConfigKey) (payload : String) {table : Table}
    (h : table.keys.Nodup) : (table.upsert clock key payload).1.keys.Nodup := by
  rw [upsert_eq]
  exact Entries.nodup_keys_put h

end Table

namespace Database

instance : RecordStore Database String where
  maxPageSize db := db.maxPageSize
  recordsOf taskId db := db.table.recordsOf taskId
  Unique db := db.table.keys.Nodup
  limitFault? _ size := Keyset.limitFault? (size + 1)
  pageRecords request db :=
    (db.pageRows request).map fun (rows, next) => (rows.map Row.record, next)

/-- The record under a key is its row. -/
@[simp] theorem record_eq (key : ConfigKey) (db : Database) :
    RecordStore.get? key db = db.table.get? key := db.table.get?_recordsOf key

/-! ## Writing -/

/-- **A set is one upsert** under the key that it addresses. -/
theorem set_eq (clock : Instant) (taskId : String) (config : PushConfig) (db : Database) :
    (db.set clock taskId config).answer = .ok (config.withDefaultId taskId) ∧
      (db.set clock taskId config).store =
        { db with
          table := (db.table.upsert clock (ConfigKey.resolve taskId config.id)
            (Schema.writeText (config.withDefaultId taskId))).1 } := by
  rw [← ConfigKey.resolve_withDefaultId]
  exact ⟨rfl, rfl⟩

/-- **A delete erases the key that it addresses**, whether or not there is a row. -/
theorem delete_eq (taskId : String) (configId : Option String) (db : Database) :
    (db.delete taskId configId).answer = .ok () ∧
      (db.delete taskId configId).store =
        { db with table := db.table.erase (ConfigKey.resolve taskId configId) } := by
  unfold delete
  dsimp only
  cases hold : db.table.get? (ConfigKey.resolve taskId configId) with
  | none =>
    rw [Entries.erase_of_get?_eq_none hold]
    exact ⟨rfl, rfl⟩
  | some stored => exact ⟨rfl, rfl⟩

/-- What the table shows after a set. -/
theorem get?_set (clock : Instant) (taskId : String) (config : PushConfig) (key : ConfigKey)
    (db : Database) :
    (db.set clock taskId config).store.table.get? key =
      (Operation.set taskId config).effect clock key (db.table.get? key) := by
  rw [(set_eq clock taskId config db).2, Table.get?_upsert]
  unfold Operation.effect
  dsimp only
  by_cases hkey : ConfigKey.resolve taskId config.id = key
  · rw [if_pos hkey, if_pos hkey, hkey]
    cases db.table.get? key <;> rfl
  · rw [if_neg hkey, if_neg hkey]

/-- What the table shows after a delete. -/
theorem get?_delete (clock : Instant) (taskId : String) (configId : Option String) (key : ConfigKey)
    (db : Database) :
    (db.delete taskId configId).store.table.get? key =
      (Operation.delete taskId configId).effect clock key (db.table.get? key) := by
  rw [(delete_eq taskId configId db).2]
  exact Entries.get?_erase _ _ _

/-! ## Listing -/

/-- What a page asks of the table, in one equation. -/
theorem pageRows_eq (request : ListRequest) (db : Database) :
    db.pageRows request =
      match PageToken.decode request.pageToken with
      | .error fault => .error (.token fault)
      | .ok cursor =>
        let size := request.effectivePageSize db.maxPageSize
        match Keyset.limitFault? (size + 1) with
        | some fault => .error (.limit fault)
        | none =>
          .ok (Keyset.cut Row.position size.toNat
            ((Keyset.ordered Row.position cursor (db.table.ofTask request.id)).take
              (size + 1).toNat)) := by
  unfold pageRows Table.page Keyset.select
  cases PageToken.decode request.pageToken with
  | error fault => rfl
  | ok cursor =>
    dsimp only
    cases Keyset.limitFault? (request.effectivePageSize db.maxPageSize + 1) <;> rfl

/-- The rows of a page are rows of the task. -/
theorem mem_ofTask_of_mem_pageRows {request : ListRequest} {db : Database} {rows : List Row}
    {next : Option String} (h : db.pageRows request = .ok (rows, next)) :
    ∀ row ∈ rows, row ∈ db.table.ofTask request.id := by
  rw [pageRows_eq] at h
  cases hcursor : PageToken.decode request.pageToken with
  | error fault =>
    rw [hcursor] at h
    cases h
  | ok cursor =>
    rw [hcursor] at h
    dsimp only at h
    cases hlimit : Keyset.limitFault? (request.effectivePageSize db.maxPageSize + 1) with
    | some fault =>
      rw [hlimit] at h
      cases h
    | none =>
      rw [hlimit] at h
      have hrows : (Keyset.cut Row.position _ _).1 = rows := congrArg Prod.fst (Except.ok.inj h)
      intro row hrow
      rw [← hrows] at hrow
      have hfound := (Keyset.cut_sublist _ _ _).subset hrow
      exact (Keyset.mem_ordered.1 (List.mem_of_mem_take hfound)).1

theorem taskId_of_mem_pageRows {request : ListRequest} {db : Database} {rows : List Row}
    {next : Option String} (h : db.pageRows request = .ok (rows, next)) :
    ∀ row ∈ rows, row.1.taskId = request.id := by
  intro row hrow
  have htask := mem_ofTask_of_mem_pageRows h row hrow
  exact of_decide_eq_true (List.mem_filter.1 htask).2

/-- Rows of a task are read as its records. -/
theorem readConfigs_eq {taskId : String} {rows : List Row} (h : ∀ row ∈ rows, row.1.taskId = taskId) :
    readConfigs rows = Record.readAll taskId (rows.map Row.record) := by
  induction rows with
  | nil => rfl
  | cons row rest ih =>
    have htask : ConfigKey.mk taskId row.1.configId = row.1 := by
      rw [← h row List.mem_cons_self]
    have hconfig : Record.config row.record = row.config := rfl
    rw [List.map_cons, Record.readAll, readConfigs, hconfig,
      ih fun r hr => h r (List.mem_cons_of_mem _ hr)]
    cases row.config with
    | error invalid =>
      exact congrArg (fun key => Except.error (Failure.unreadable key invalid)) htask.symm
    | ok config => cases Record.readAll taskId (rest.map Row.record) <;> rfl

/-- **Rows that can be read each are read together.** -/
theorem exists_readConfigs {rows : List Row} (h : ∀ row ∈ rows, ∃ config, row.config = .ok config) :
    ∃ configs, readConfigs rows = .ok configs := by
  induction rows with
  | nil => exact ⟨[], rfl⟩
  | cons row rest ih =>
    obtain ⟨config, hconfig⟩ := h row List.mem_cons_self
    obtain ⟨configs, hrest⟩ := ih fun r hr => h r (List.mem_cons_of_mem _ hr)
    refine ⟨config :: configs, ?_⟩
    rw [readConfigs, hconfig]
    dsimp only
    rw [hrest]

/-- **The page cut off one row more than it holds is the page that is due.** -/
theorem pageRecords_eq (request : ListRequest) {db : Database} (h : 1 ≤ db.maxPageSize) :
    RecordStore.pageRecords request db = RecordStore.duePage request db := by
  show (db.pageRows request).map _ = _
  rw [pageRows_eq]
  unfold RecordStore.duePage
  cases PageToken.decode request.pageToken with
  | error fault => rfl
  | ok cursor =>
    have hsize : 1 ≤ request.effectivePageSize db.maxPageSize := (request.effectivePageSize_mem h).1
    have hcut := Keyset.cut_take_succ Row.position (request.effectivePageSize db.maxPageSize).toNat
      (Keyset.ordered Row.position cursor (db.table.ofTask request.id))
    -- A row stands where its record stands, so a page of rows is a page of records.
    have hplace : ∀ row : Row, row.record.position = row.position := fun _ => rfl
    have hmap := Keyset.cut_ordered_map hplace (request.effectivePageSize db.maxPageSize).toNat cursor
      (db.table.ofTask request.id)
    rw [show (request.effectivePageSize db.maxPageSize).toNat + 1 =
      (request.effectivePageSize db.maxPageSize + 1).toNat from by omega] at hcut
    dsimp only
    rw [hcut]
    show Except.map _ _ = match Keyset.limitFault? (request.effectivePageSize db.maxPageSize + 1) with
      | some fault => Except.error (Failure.limit fault)
      | none => Except.ok (Keyset.cut Record.position (request.effectivePageSize db.maxPageSize).toNat
          (Keyset.ordered Record.position cursor ((db.table.ofTask request.id).map Row.record)))
    rw [hmap]
    cases Keyset.limitFault? (request.effectivePageSize db.maxPageSize + 1) <;> rfl

/-- The database makes the pages whose look-ahead row is within the limit of a query. -/
theorem takes_iff {request : ListRequest} {db : Database} (h : 1 ≤ db.maxPageSize) :
    RecordStore.Takes request db ↔
      request.effectivePageSize db.maxPageSize + 1 ≤ Keyset.maxLimit := by
  have hsize := (request.effectivePageSize_mem h).1
  show Keyset.limitFault? (request.effectivePageSize db.maxPageSize + 1) = none ↔ _
  rw [Keyset.limitFault?_eq_none_iff]
  exact and_iff_right (by omega)

instance : LawfulStore Database String where
  nodup_keys_recordsOf taskId _ h := Table.nodup_keys_recordsOf taskId h
  unique_empty _ := List.nodup_nil
  maxPageSize_empty _ := rfl
  get?_empty _ _ := rfl
  answer_set clock taskId config db := (set_eq clock taskId config db).1
  unique_set := by
    intro clock taskId config db h
    show (db.set clock taskId config).store.table.keys.Nodup
    rw [(set_eq clock taskId config db).2]
    exact Table.nodup_keys_upsert _ _ _ h
  maxPageSize_set _ _ _ _ := rfl
  get?_set := by
    intro clock taskId config key db
    rw [record_eq, record_eq]
    exact get?_set clock taskId config key db
  answer_delete taskId configId db := (delete_eq taskId configId db).1
  unique_delete := by
    intro taskId configId db h
    show (db.delete taskId configId).store.table.keys.Nodup
    rw [(delete_eq taskId configId db).2]
    exact Entries.nodup_keys_erase h
  maxPageSize_delete := by
    intro taskId configId db
    show (db.delete taskId configId).store.maxPageSize = db.maxPageSize
    rw [(delete_eq taskId configId db).2]
  get?_delete := by
    intro clock taskId configId key db
    rw [record_eq, record_eq]
    exact get?_delete clock taskId configId key db
  store_list _ _ := rfl
  answer_list := by
    intro request db
    show (db.list request).answer = RecordStore.shown request ((db.pageRows request).map _)
    rw [list_eq]
    unfold readPage
    cases hrows : db.pageRows request with
    | error failure => rfl
    | ok found =>
      obtain ⟨rows, next⟩ := found
      show _ = (Record.readAll request.id (rows.map Row.record)).map _
      rw [← readConfigs_eq (taskId_of_mem_pageRows hrows)]
      dsimp only
      cases readConfigs rows <;> rfl
  pageRecords_eq := by
    intro request db h
    exact pageRecords_eq request h.one_le_maxPageSize

/-- What the database finds behind a cursor, in one equation. -/
theorem pageRecords_of_decode {request : ListRequest} {db : Database} {cursor : Option Cursor}
    (h : 1 ≤ db.maxPageSize) (hcursor : PageToken.decode request.pageToken = .ok cursor) :
    RecordStore.pageRecords request db =
      match Keyset.limitFault? (request.effectivePageSize db.maxPageSize + 1) with
      | some fault => .error (.limit fault)
      | none =>
        .ok (Keyset.cut Record.position (RecordStore.pageSize request db)
          (RecordStore.due request.id cursor db)) := by
  rw [pageRecords_eq request h]
  unfold RecordStore.duePage
  rw [hcursor]
  rfl

/-- **A page whose look-ahead row is beyond the limit of a query is refused.** -/
theorem answer_list_of_limit {request : ListRequest} {db : Database} {cursor : Option Cursor}
    (h : 1 ≤ db.maxPageSize) (hcursor : PageToken.decode request.pageToken = .ok cursor)
    (hlimit : Keyset.maxLimit < request.effectivePageSize db.maxPageSize + 1) :
    ∃ fault, (ConfigStore.list request db).answer = .error (.limit fault) := by
  obtain ⟨fault, hfault⟩ := Keyset.exists_limitFault hlimit
  refine ⟨fault, ?_⟩
  rw [LawfulStore.answer_list, pageRecords_of_decode h hcursor, hfault]
  rfl

/-- Records can be read if the rows of the table can. -/
theorem readable_of_rows {db : Database}
    (hread : ∀ row ∈ db.table, ∃ config, Row.config row = .ok config) (key : ConfigKey)
    (record : Stored String) (hrecord : RecordStore.get? key db = some record) :
    ∃ config, Payload.read record.payload = .ok config := by
  rw [record_eq] at hrecord
  have hconfig := hread _ (Entries.mem_of_get? hrecord)
  unfold Row.config at hconfig
  exact hconfig

/-- A table is healthy if no key comes twice and all payloads are readable. -/
theorem healthy_of_rows {db : Database} (hkeys : db.table.keys.Nodup) (hmax : 1 ≤ db.maxPageSize)
    (hread : ∀ row ∈ db.table, ∃ config, Row.config row = .ok config) : RecordStore.Healthy db :=
  ⟨hkeys, hmax, readable_of_rows hread⟩

/-- A table is sound if no key comes twice, all times are whole milliseconds or missing and all payloads
    are readable. -/
theorem sound_of_rows {db : Database} (hkeys : db.table.keys.Nodup) (hmax : 1 ≤ db.maxPageSize)
    (htimes : ∀ row ∈ db.table, (Row.position row).IsExact)
    (hread : ∀ row ∈ db.table, ∃ config, Row.config row = .ok config) : RecordStore.Sound db where
  unique := hkeys
  one_le_maxPageSize := hmax
  exact key record hrecord := by
    rw [record_eq] at hrecord
    exact htimes _ (Entries.mem_of_get? hrecord)
  readable := readable_of_rows hread

end Database

end WebhookRegistry
