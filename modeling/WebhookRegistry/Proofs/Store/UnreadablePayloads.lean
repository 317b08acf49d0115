/-
  Pages of a table whose payloads may be any texts.

  A payload is read only when its page is shown, so one that is no config spoils the pages that hold it
  and no others:

  1. **The first unreadable record** (`Record.readAll_of_firstUnreadable`): reading stops at it, and the
     failure names it. Either there is one or all records can be read
     (`exists_firstUnreadable_or_forall`).

  2. **Other payloads** (`Database.pageRecords_withPayloads`): neither the order of the records nor where
     a page ends depends on payloads, so those of the look-ahead row, of records before the cursor and of
     other tasks may be any.

  3. **One page** (`Database.answer_list_eq`): it is read after it is cut, so the payloads of the records
     that it shows decide, and no others.
-/
import WebhookRegistry.Proofs.Store.OnePage
import WebhookRegistry.Proofs.Store.Representation

namespace WebhookRegistry

open RecordStore

/-! ## The first unreadable record -/

section

variable {π : Type} [Payload π] {records : List (Record π)}

/-- Whether the payload of a record can be read. -/
def Record.Readable (record : Record π) : Prop := ∃ config, record.config = .ok config

theorem Record.not_readable_iff {record : Record π} :
    ¬ record.Readable ↔ ∃ invalid, record.config = .error invalid := by
  unfold Readable
  cases record.config <;> simp

/-- Whether a record is the first one of a list that cannot be read, for what is wrong with its
    payload. -/
def FirstUnreadable (records : List (Record π)) (record : Record π) (invalid : Schema.Invalid) : Prop :=
  ∃ before after, records = before ++ record :: after ∧ (∀ r ∈ before, Record.Readable r) ∧
    record.config = .error invalid

theorem FirstUnreadable.mem {record : Record π} {invalid : Schema.Invalid}
    (h : FirstUnreadable records record invalid) : record ∈ records := by
  obtain ⟨before, after, rfl, -, -⟩ := h
  exact List.mem_append_right _ List.mem_cons_self

theorem FirstUnreadable.not_readable {record : Record π} {invalid : Schema.Invalid}
    (h : FirstUnreadable records record invalid) : ¬ record.Readable := by
  obtain ⟨-, -, -, -, hinvalid⟩ := h
  exact Record.not_readable_iff.2 ⟨invalid, hinvalid⟩

/-- A record that can be read may stand in front. -/
theorem FirstUnreadable.cons {first record : Record π} {invalid : Schema.Invalid}
    (h : FirstUnreadable records record invalid) (hfirst : first.Readable) :
    FirstUnreadable (first :: records) record invalid := by
  obtain ⟨before, after, rfl, hbefore, hinvalid⟩ := h
  exact ⟨first :: before, after, rfl, List.forall_mem_cons.2 ⟨hfirst, hbefore⟩, hinvalid⟩

/-- **All records can be read, or one of them is the first that cannot.** -/
theorem exists_firstUnreadable_or_forall (records : List (Record π)) :
    (∀ record ∈ records, record.Readable) ∨
      ∃ record invalid, FirstUnreadable records record invalid := by
  induction records with
  | nil => exact Or.inl fun _ hrecord => absurd hrecord List.not_mem_nil
  | cons first rest ih =>
    cases hread : first.config with
    | error invalid =>
      exact Or.inr ⟨first, invalid, [], rest, rfl, fun _ hr => absurd hr List.not_mem_nil, hread⟩
    | ok config =>
      rcases ih with hall | ⟨record, invalid, hrecord⟩
      · exact Or.inl (List.forall_mem_cons.2 ⟨⟨config, hread⟩, hall⟩)
      · exact Or.inr ⟨record, invalid, hrecord.cons ⟨config, hread⟩⟩

/-- **Reading stops at the first unreadable record**, whatever comes after it. -/
theorem Record.readAll_of_firstUnreadable (taskId : String) {record : Record π}
    {invalid : Schema.Invalid} (h : FirstUnreadable records record invalid) :
    readAll taskId records = .error (.unreadable ⟨taskId, record.1⟩ invalid) := by
  obtain ⟨before, after, rfl, hbefore, hinvalid⟩ := h
  induction before with
  | nil => rw [List.nil_append, readAll, hinvalid]
  | cons first rest ih =>
    obtain ⟨⟨config, hfirst⟩, hrest⟩ := List.forall_mem_cons.1 hbefore
    rw [List.cons_append, readAll, hfirst]
    dsimp only
    rw [ih hrest]
    rfl

end

/-- The error of a record that cannot be read names its task and its id. -/
theorem Failure.report_unreadable (taskId id : String) (invalid : Schema.Invalid) :
    (Failure.unreadable ⟨taskId, id⟩ invalid).report =
      some (.store ("Failed to deserialize PushNotificationConfig for Task '" ++ taskId ++
        "' with ID: " ++ id) taskId (some id)) := rfl

/-! ## Other payloads -/

/-- A record of a task with the payload that is given for its key. -/
def Record.withPayload (taskId : String) (payload : ConfigKey → String) (record : Record String) :
    Record String :=
  (record.1, { record.2 with payload := payload ⟨taskId, record.1⟩ })

/-- A table with the payloads that are given for its keys. -/
def Table.withPayloads (payload : ConfigKey → String) (table : Table) : Table :=
  table.map fun row => (row.1, { row.2 with payload := payload row.1 })

theorem Table.recordsOf_withPayloads (taskId : String) (payload : ConfigKey → String) (table : Table) :
    (table.withPayloads payload).recordsOf taskId =
      (table.recordsOf taskId).map (Record.withPayload taskId payload) := by
  induction table with
  | nil => rfl
  | cons row rest ih =>
    have hrest : recordsOf taskId (withPayloads payload (row :: rest)) =
        if row.1.taskId = taskId then
          (row.1.configId, { row.2 with payload := payload row.1 }) ::
            recordsOf taskId (withPayloads payload rest)
        else recordsOf taskId (withPayloads payload rest) := recordsOf_cons taskId _ _
    rw [hrest, ih, recordsOf_cons]
    by_cases htask : row.1.taskId = taskId
    · rw [if_pos htask, if_pos htask, List.map_cons, ← htask]
      rfl
    · rw [if_neg htask, if_neg htask]

namespace Database

variable {db : Database} {request : ListRequest} {cursor : Option Cursor}

/-- A database with the payloads that are given for its keys. -/
def withPayloads (payload : ConfigKey → String) (db : Database) : Database :=
  { db with table := db.table.withPayloads payload }

/-- **Payloads do not matter for what is still to come.** -/
theorem due_withPayloads (taskId : String) (cursor : Option Cursor) (payload : ConfigKey → String)
    (db : Database) :
    due taskId cursor (db.withPayloads payload) =
      (due taskId cursor db).map (Record.withPayload taskId payload) := by
  have hplace : ∀ record : Record String,
      (record.withPayload taskId payload).position = record.position := fun _ => rfl
  show Keyset.ordered Record.position cursor ((db.table.withPayloads payload).recordsOf taskId) = _
  rw [Table.recordsOf_withPayloads, ← Keyset.map_ordered hplace]
  rfl

/-- **The records of a page are the same** if they keep their payloads, whatever the others get. -/
theorem pageRecords_withPayloads (h : 1 ≤ db.maxPageSize)
    (hcursor : PageToken.decode request.pageToken = .ok cursor) {payload : ConfigKey → String}
    (hpage : ∀ record ∈ (due request.id cursor db).take (pageSize request db),
      payload ⟨request.id, record.1⟩ = record.2.payload) :
    pageRecords request (db.withPayloads payload) = pageRecords request db := by
  have hplace : ∀ record : Record String,
      (record.withPayload request.id payload).position = record.position := fun _ => rfl
  have hsame : ((due request.id cursor db).take (pageSize request db)).map
      (Record.withPayload request.id payload) =
        (due request.id cursor db).take (pageSize request db) := by
    refine (List.map_congr_left fun record hrecord => ?_).trans (List.map_id _)
    unfold Record.withPayload
    rw [hpage record hrecord]
    rfl
  have hcut : Keyset.cut Record.position (pageSize request (db.withPayloads payload))
      (due request.id cursor (db.withPayloads payload)) =
        Keyset.cut Record.position (pageSize request db) (due request.id cursor db) := by
    show Keyset.cut Record.position (pageSize request db) _ = _
    rw [due_withPayloads, Keyset.cut_map hplace, Keyset.fst_cut, hsame,
      ← Keyset.fst_cut Record.position]
  rw [pageRecords_of_decode h hcursor,
    pageRecords_of_decode (show 1 ≤ (db.withPayloads payload).maxPageSize from h) hcursor, hcut]
  rfl

/-! ## One page -/

/-- **A page is read after it is cut**: only the payloads of the records that it shows are read. -/
theorem answer_list_eq (h : 1 ≤ db.maxPageSize)
    (hcursor : PageToken.decode request.pageToken = .ok cursor)
    (hlimit : request.effectivePageSize db.maxPageSize + 1 ≤ Keyset.maxLimit) :
    (ConfigStore.list request db).answer =
      (Record.readAll request.id ((due request.id cursor db).take (pageSize request db))).map
        fun configs => ConfigPage.of request configs
          (Keyset.cut Record.position (pageSize request db) (due request.id cursor db)).2 := by
  have hone := (request.effectivePageSize_mem h).1
  have hnone : Keyset.limitFault? (request.effectivePageSize db.maxPageSize + 1) = none :=
    Keyset.limitFault?_eq_none_iff.2 ⟨by omega, hlimit⟩
  rw [LawfulStore.answer_list, pageRecords_of_decode h hcursor, hnone, ← Keyset.fst_cut Record.position]
  rfl

/-- **A page whose records can be read is shown.** -/
theorem answer_list_of_readable (h : 1 ≤ db.maxPageSize)
    (hcursor : PageToken.decode request.pageToken = .ok cursor)
    (hlimit : request.effectivePageSize db.maxPageSize + 1 ≤ Keyset.maxLimit)
    (hall : ∀ record ∈ (due request.id cursor db).take (pageSize request db), record.Readable) :
    ∃ page, (ConfigStore.list request db).answer = .ok page ∧
      ShowsFirst request (pageSize request db) (due request.id cursor db) page := by
  obtain ⟨configs, hconfigs⟩ := Record.exists_configs hall
  have hread : Record.readAll request.id _ = .ok configs := Record.readAll_eq_ok_iff.2 hconfigs
  rw [← Keyset.fst_cut Record.position] at hconfigs
  refine ⟨_, ?_, ShowsFirst.of_cut (one_le_pageSize h request) hconfigs⟩
  rw [answer_list_eq h hcursor hlimit, hread]
  rfl

/-- **A page with an unreadable record is not shown**: the first such record is the failure. -/
theorem answer_list_of_firstUnreadable (h : 1 ≤ db.maxPageSize)
    (hcursor : PageToken.decode request.pageToken = .ok cursor)
    (hlimit : request.effectivePageSize db.maxPageSize + 1 ≤ Keyset.maxLimit)
    {record : Record String} {invalid : Schema.Invalid}
    (hfirst : FirstUnreadable ((due request.id cursor db).take (pageSize request db)) record invalid) :
    (ConfigStore.list request db).answer =
      .error (.unreadable ⟨request.id, record.1⟩ invalid) := by
  rw [answer_list_eq h hcursor hlimit, Record.readAll_of_firstUnreadable request.id hfirst]
  rfl

/-- **Other payloads than those of its page do not matter for an answer.** -/
theorem answer_list_withPayloads (h : 1 ≤ db.maxPageSize)
    (hcursor : PageToken.decode request.pageToken = .ok cursor) {payload : ConfigKey → String}
    (hpage : ∀ record ∈ (due request.id cursor db).take (pageSize request db),
      payload ⟨request.id, record.1⟩ = record.2.payload) :
    (ConfigStore.list request (db.withPayloads payload)).answer =
      (ConfigStore.list request db).answer := by
  rw [LawfulStore.answer_list, LawfulStore.answer_list, pageRecords_withPayloads h hcursor hpage]

end Database

/-- Whether what comes of a request is decided by the payloads of the page that it is due, and of those
    alone: an unreadable one aborts it, with the error that names the first of them, and otherwise the
    page is shown. -/
structure ReadsPage (request : ListRequest) (size : Nat) (records : List (Record String))
    (db : Database) : Prop where
  aborts_iff : (∃ failure, (ConfigStore.list request db).answer = .error failure ∧
    failure.IsStoreError) ↔ ∃ record ∈ records.take size, ¬ record.Readable
  names_first : ∀ failure, (ConfigStore.list request db).answer = .error failure →
    ∃ record invalid, FirstUnreadable (records.take size) record invalid ∧
      failure.report = some (.store ("Failed to deserialize PushNotificationConfig for Task '" ++
        request.id ++ "' with ID: " ++ record.1) request.id (some record.1)) ∧
      failure.cause? = some (.payload (.unreadable invalid))
  shows : (∀ record ∈ records.take size, record.Readable) →
    ∃ page, (ConfigStore.list request db).answer = .ok page ∧ ShowsFirst request size records page
  no_other : ∀ payload : ConfigKey → String,
    (∀ record ∈ records.take size, payload ⟨request.id, record.1⟩ = record.2.payload) →
      (ConfigStore.list request (db.withPayloads payload)).answer = (ConfigStore.list request db).answer

/-- Whether a request reads just the page that it is due: the first records after its cursor, as many as
    the page size allows. -/
def ReadsJustItsPage (request : ListRequest) (cursor : Option Cursor) (db : Database) : Prop :=
  ∃ (records : List (Record String)) (size : Nat),
    PageDue request cursor db records size ∧ ReadsPage request size records db

namespace Database

variable {db : Database} {request : ListRequest} {cursor : Option Cursor}

/-- **A page is decided by its own payloads** if its look-ahead row is within the limit of a query. -/
theorem readsPage (h : 1 ≤ db.maxPageSize)
    (hcursor : PageToken.decode request.pageToken = .ok cursor)
    (hlimit : request.effectivePageSize db.maxPageSize + 1 ≤ Keyset.maxLimit) :
    ReadsPage request (pageSize request db) (due request.id cursor db) db := by
  have hother : ∀ payload : ConfigKey → String,
      (∀ record ∈ (due request.id cursor db).take (pageSize request db),
        payload ⟨request.id, record.1⟩ = record.2.payload) →
      (ConfigStore.list request (db.withPayloads payload)).answer =
        (ConfigStore.list request db).answer :=
    fun _ hpage => answer_list_withPayloads h hcursor hpage
  rcases exists_firstUnreadable_or_forall ((due request.id cursor db).take (pageSize request db)) with
    hall | ⟨record, invalid, hfirst⟩
  · obtain ⟨page, hanswer, hshows⟩ := answer_list_of_readable h hcursor hlimit hall
    refine ⟨⟨?_, ?_⟩, ?_, fun _ => ⟨page, hanswer, hshows⟩, hother⟩
    · rintro ⟨failure, hfailure, -⟩
      rw [hanswer] at hfailure
      cases hfailure
    · rintro ⟨record, hrecord, hnot⟩
      exact absurd (hall record hrecord) hnot
    · intro failure hfailure
      rw [hanswer] at hfailure
      cases hfailure
  · have hanswer := answer_list_of_firstUnreadable h hcursor hlimit hfirst
    have hreport := Failure.report_unreadable request.id record.1 invalid
    refine ⟨⟨?_, ?_⟩, ?_, ?_, hother⟩
    · intro _
      exact ⟨record, hfirst.mem, hfirst.not_readable⟩
    · intro _
      exact ⟨_, hanswer, _, _, _, hreport⟩
    · intro failure hfailure
      rw [hanswer] at hfailure
      cases hfailure
      exact ⟨record, invalid, hfirst, hreport, rfl⟩
    · intro hall
      exact absurd (hall record hfirst.mem) hfirst.not_readable

/-- So a page that is decided by its payloads has a look-ahead row within the limit. -/
theorem limit_of_readsPage (h : 1 ≤ db.maxPageSize)
    (hcursor : PageToken.decode request.pageToken = .ok cursor) {size : Nat}
    {records : List (Record String)} (hpage : ReadsPage request size records db) :
    request.effectivePageSize db.maxPageSize + 1 ≤ Keyset.maxLimit := by
  refine Int.not_lt.1 fun hlimit => ?_
  obtain ⟨fault, hrefused⟩ := answer_list_of_limit h hcursor hlimit
  -- The failure of a limit names no config.
  obtain ⟨record, invalid, -, hreport, -⟩ := hpage.names_first _ hrefused
  cases hreport

end Database

/-- **Unreadable payloads abort just the pages that hold them**: for every token that can be read, the
    database reads the payloads of the page that the request is due and no others, exactly if its
    look-ahead row is within the limit of a query. -/
theorem unreadable_payloads_abort_their_pages (db : Database) (request : ListRequest)
    (cursor : Option Cursor) (hkeys : db.table.keys.Nodup) (hmax : 1 ≤ db.maxPageSize)
    (hcursor : PageToken.decode request.pageToken = .ok cursor) :
    ReadsJustItsPage request cursor db ↔
      request.effectivePageSize db.maxPageSize + 1 ≤ Keyset.maxLimit := by
  constructor
  · rintro ⟨records, size, -, hpage⟩
    exact Database.limit_of_readsPage hmax hcursor hpage
  · intro hlimit
    exact ⟨_, _, pageDue hkeys hmax request cursor, Database.readsPage hmax hcursor hlimit⟩

/-- A page of two behind a forged cursor, whose second row is unreadable: JSON that ends too early. So
    are a row before the cursor, an array, and the look-ahead row, which is empty. -/
theorem unreadable_payload_aborts_second_row :
    let config : PushConfig := ⟨"https://example.org", none, none, none⟩
    let early : Instant := ⟨-1001, by decide, by decide⟩
    let db : Database :=
      ⟨2, [(⟨"t", "z"⟩, ⟨some early, ""⟩), (⟨"t", "a"⟩, ⟨none, "[]"⟩),
        (⟨"t", "d"⟩, ⟨some .epoch, "\x7b"⟩), (⟨"t", "c"⟩, ⟨none, Schema.writeText config⟩),
        (⟨"u", "c"⟩, ⟨none, "null"⟩)]⟩
    let request : ListRequest := ⟨"t", 0, some "+0:b", "tenant"⟩
    let cursor : Cursor := ⟨.unset, "b"⟩
    db.table.keys.Nodup ∧ 1 ≤ db.maxPageSize ∧
      PageToken.decode request.pageToken = .ok (some cursor) ∧
      ReadsJustItsPage request (some cursor) db := by
  intro config early db request cursor
  have hkeys : db.table.keys.Nodup := by decide
  have hmax : 1 ≤ db.maxPageSize := by decide
  have hcursor : PageToken.decode request.pageToken = .ok (some cursor) := rfl
  have hpage := unreadable_payloads_abort_their_pages db request (some cursor) hkeys hmax hcursor
  exact ⟨hkeys, hmax, hcursor, hpage.2 (by decide)⟩

/-- **Without room for the look-ahead row no payload is read**: with the largest page size that the
    database could take, an unreadable row fails as any other would, and is not named. -/
theorem unreadable_payload_not_named_at_maxLimit :
    let db : Database := ⟨Keyset.maxLimit, [(⟨"t", "a"⟩, ⟨none, "[]"⟩)]⟩
    let request : ListRequest := ⟨"t", 0, none, ""⟩
    db.table.keys.Nodup ∧ 1 ≤ db.maxPageSize ∧ PageToken.decode request.pageToken = .ok none ∧
      ¬ ReadsJustItsPage request none db := by
  intro db request
  have hmax : 1 ≤ db.maxPageSize := by decide
  refine ⟨by decide, hmax, rfl, ?_⟩
  rintro ⟨records, size, -, hpage⟩
  have hlimit := Database.limit_of_readsPage hmax rfl hpage
  exact absurd hlimit (by decide)

end WebhookRegistry
