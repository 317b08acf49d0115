/-
  Tasks that do not meet.

  What a store keeps of a task are its records in their order, and a page of the task is cut off them
  alone. So a task could as well have a store of its own:

  1. **One step** (`TaskwiseStore`): an operation turns the records of its task into others
     (`Operation.onRecords`) and touches no other task. Hence two stores with the same records of a task
     answer an operation on it alike and keep the same records of it (`SameFor.perform`), and an
     operation on another task makes no difference (`SameFor.perform_other`).

  2. **Every run** (`answersOn_operationsOn`): by induction over the history, the operations on a task
     are answered among all others as they would be among themselves. So two histories with the same
     operations on a task get the same answers to them.

  A tenant is not looked at: it is copied into the items of the answer, and nothing else depends on it
  (`OnlyCopied`). Histories are therefore compared with all tenants taken out.
-/
import WebhookRegistry.Proofs.Store.Database
import WebhookRegistry.Proofs.Store.Memory
import WebhookRegistry.Proofs.Store.Runs

namespace WebhookRegistry

open RecordStore

/-! ## Tenants -/

/-- The page with the tenant of its items replaced. -/
def ConfigPage.withTenant (tenant : String) (page : ConfigPage) : ConfigPage :=
  { page with configs := page.configs.map fun item => { item with tenant := tenant } }

/-- The answer with the tenant of its items replaced; only pages have items. -/
def Answer.withTenant (tenant : String) : Answer → Answer
  | .listed page => .listed (page.withTenant tenant)
  | answer => answer

namespace Operation

/-- The task of an operation. -/
def taskId : Operation → String
  | .set taskId _ => taskId
  | .list request => request.id
  | .delete taskId _ => taskId

/-- The operation with its tenant replaced; only requests for pages have one. -/
def withTenant (tenant : String) : Operation → Operation
  | .list request => .list { request with tenant := tenant }
  | operation => operation

theorem taskId_withTenant (tenant : String) (operation : Operation) :
    (operation.withTenant tenant).taskId = operation.taskId := by
  cases operation <;> rfl

end Operation

/-- The tenant of a request is copied into each item of its page. -/
theorem ConfigPage.of_withTenant (tenant : String) (request : ListRequest) (configs : List PushConfig)
    (next : Option String) :
    ConfigPage.of { request with tenant := tenant } configs next =
      (ConfigPage.of request configs next).withTenant tenant := by
  unfold ConfigPage.of ConfigPage.withTenant
  rw [List.map_map]
  rfl

/-- Of two tenants put in one after the other the last one stays. -/
theorem Answer.withTenant_withTenant (first second : String) (answer : Answer) :
    (answer.withTenant first).withTenant second = answer.withTenant second := by
  cases answer with
  | stored config => rfl
  | done => rfl
  | listed page =>
    refine congrArg Answer.listed ?_
    unfold ConfigPage.withTenant
    rw [List.map_map]
    rfl

/-! ## The records of a task -/

/-- What an operation makes of the records of its task. -/
def Operation.onRecords {π : Type} [Payload π] (clock : Instant) (operation : Operation)
    (records : Entries String (Stored π)) : Entries String (Stored π) :=
  match operation with
  | .set taskId config =>
    let id := resolveConfigId taskId config.id
    records.put id
      (Stored.renew clock (Payload.write (config.withDefaultId taskId)) (records.get? id))
  | .list _ => records
  | .delete taskId configId => records.erase (resolveConfigId taskId configId)

section

variable {σ π : Type} [Payload π] [ConfigStore σ] [RecordStore σ π]

theorem shown_withTenant (tenant : String) (request : ListRequest)
    (page : Except Failure (List (Record π) × Option String)) :
    shown { request with tenant := tenant } page =
      (shown request page).map (ConfigPage.withTenant tenant) := by
  cases page with
  | error failure => rfl
  | ok found =>
    obtain ⟨records, next⟩ := found
    show (Record.readAll request.id records).map _ = ((Record.readAll request.id records).map _).map _
    cases Record.readAll request.id records with
    | error failure => rfl
    | ok configs => exact congrArg Except.ok (ConfigPage.of_withTenant tenant request configs next)

/-- **The tenant of a request is copied into its answer** if it has no part in the page. -/
theorem answer_list_withTenant [LawfulStore σ π] (tenant : String) (request : ListRequest) (store : σ)
    (hpage : pageRecords { request with tenant := tenant } store = pageRecords request store) :
    (ConfigStore.list { request with tenant := tenant } store).answer =
      (ConfigStore.list request store).answer.map (ConfigPage.withTenant tenant) := by
  rw [LawfulStore.answer_list, LawfulStore.answer_list, hpage, shown_withTenant]

end

/-- A store in which each task is kept by itself. -/
class TaskwiseStore (σ : Type) (π : outParam Type) [Payload π] [ConfigStore σ] [RecordStore σ π] :
    Prop extends LawfulStore σ π where
  /-- An operation turns the records of its task into others and touches no other task. -/
  recordsOf_perform : ∀ clock (operation : Operation) taskId (store : σ),
    recordsOf taskId (perform clock operation store).store =
      if operation.taskId = taskId then operation.onRecords clock (recordsOf taskId store)
      else recordsOf taskId store
  /-- A page depends on the records of its task alone. -/
  pageRecords_congr : ∀ request {s t : σ}, maxPageSize s = maxPageSize t →
    recordsOf request.id s = recordsOf request.id t → pageRecords request s = pageRecords request t
  /-- The tenant has no part in a page, nor in what is logged about it. -/
  pageRecords_withTenant : ∀ request tenant (store : σ),
    pageRecords { request with tenant := tenant } store = pageRecords request store
  events_withTenant : ∀ request tenant (store : σ),
    (ConfigStore.list { request with tenant := tenant } store).events =
      (ConfigStore.list request store).events

/-! ## The two stores -/

instance : TaskwiseStore Database String where
  recordsOf_perform := by
    intro clock operation task db
    cases operation with
    | set taskId config =>
      have hget := db.table.get?_recordsOf (ConfigKey.resolve taskId config.id)
      show (db.set clock taskId config).store.table.recordsOf task = _
      rw [(Database.set_eq clock taskId config db).2, Table.upsert_eq, Table.recordsOf_put]
      by_cases htask : taskId = task
      · rw [← hget, ← htask]
        rfl
      · exact (if_neg htask).trans (if_neg htask).symm
    | list request => exact (ite_self _).symm
    | delete taskId configId =>
      show (db.delete taskId configId).store.table.recordsOf task = _
      rw [(Database.delete_eq taskId configId db).2]
      exact db.table.recordsOf_erase task (ConfigKey.resolve taskId configId)
  pageRecords_congr := by
    intro request s t hsize hrecords
    have hmax : s.maxPageSize = t.maxPageSize := hsize
    have hrows : s.table.ofTask request.id = t.table.ofTask request.id := by
      rw [Table.ofTask_eq, Table.ofTask_eq]
      exact congrArg (List.map _) hrecords
    have hpage : s.pageRows request = t.pageRows request := by
      rw [Database.pageRows_eq, Database.pageRows_eq, hrows, hmax]
    exact congrArg (Except.map _) hpage
  pageRecords_withTenant _ _ _ := rfl
  events_withTenant := by
    intro request tenant db
    have hanswer : (db.list { request with tenant := tenant }).answer =
        (db.list request).answer.map (ConfigPage.withTenant tenant) :=
      answer_list_withTenant tenant request db rfl
    rw [Database.list_eq, Database.list_eq] at hanswer
    show (db.list { request with tenant := tenant }).events = (db.list request).events
    rw [Database.list_eq, Database.list_eq]
    dsimp only at hanswer ⊢
    rw [hanswer]
    cases db.readPage request with
    | error failure => rfl
    | ok page => simp [Except.map, Database.listEvents, ConfigPage.withTenant]

instance : TaskwiseStore Memory PushConfig where
  recordsOf_perform := by
    intro clock operation task memory
    cases operation with
    | set taskId config => exact Memory.configsOf_set clock taskId task config memory
    | list request => exact (ite_self _).symm
    | delete taskId configId => exact Memory.configsOf_delete taskId task configId memory
  pageRecords_congr := by
    intro request s t hsize hrecords
    have hmax : s.maxPageSize = t.maxPageSize := hsize
    have hconfigs : s.configsOf request.id = t.configsOf request.id := hrecords
    show s.pageEntries request = t.pageEntries request
    simp only [Memory.pageEntries, hconfigs, hmax]
  pageRecords_withTenant _ _ _ := rfl
  events_withTenant := by
    intro request tenant memory
    have hanswer : memory.page { request with tenant := tenant } =
        (memory.page request).map (ConfigPage.withTenant tenant) :=
      answer_list_withTenant tenant request memory rfl
    show Memory.listEvents request.id (memory.page _) = Memory.listEvents request.id (memory.page request)
    rw [hanswer]
    cases memory.page request with
    | error failure => rfl
    | ok page => rfl

/-! ## One step -/

/-- Whether a tenant put into an operation is copied into its answer and changes nothing else. -/
structure OnlyCopied {σ : Type} [ConfigStore σ] (clock : Instant) (operation : Operation)
    (tenant : String) (store : σ) : Prop where
  answer_eq : (perform clock (operation.withTenant tenant) store).answer =
    (perform clock operation store).answer.map (Answer.withTenant tenant)
  store_eq : (perform clock (operation.withTenant tenant) store).store =
    (perform clock operation store).store
  events_eq : (perform clock (operation.withTenant tenant) store).events =
    (perform clock operation store).events

/-- **A tenant is only copied**, by every operation on every store. -/
theorem onlyCopied {σ π : Type} [Payload π] [ConfigStore σ] [RecordStore σ π] [TaskwiseStore σ π]
    (clock : Instant) (operation : Operation) (tenant : String) (store : σ) :
    OnlyCopied clock operation tenant store := by
  cases operation with
  | set taskId config =>
    refine ⟨?_, rfl, rfl⟩
    show Except.map _ _ = Except.map _ (Except.map _ _)
    rw [LawfulStore.answer_set]
    rfl
  | delete taskId configId =>
    refine ⟨?_, rfl, rfl⟩
    show Except.map _ _ = Except.map _ (Except.map _ _)
    rw [LawfulStore.answer_delete]
    rfl
  | list request =>
    have hanswer := answer_list_withTenant tenant request store
      (TaskwiseStore.pageRecords_withTenant request tenant store)
    refine ⟨?_, ?_, TaskwiseStore.events_withTenant request tenant store⟩
    · show Except.map _ (ConfigStore.list { request with tenant := tenant } store).answer = _
      rw [hanswer]
      show _ = Except.map _ (Except.map _ (ConfigStore.list request store).answer)
      cases (ConfigStore.list request store).answer <;> rfl
    · show (ConfigStore.list { request with tenant := tenant } store).store =
        (ConfigStore.list request store).store
      rw [LawfulStore.store_list, LawfulStore.store_list]

section

variable {σ π : Type} [Payload π] [ConfigStore σ] [RecordStore σ π]

/-- Whether two stores have one page size and the same records of a task, in one order. -/
structure SameFor (taskId : String) (s t : σ) : Prop where
  maxPageSize_eq : maxPageSize s = maxPageSize t
  recordsOf_eq : recordsOf taskId s = recordsOf taskId t

variable [TaskwiseStore σ π]

namespace SameFor

variable {taskId : String} {s t : σ} {operation : Operation}

/-- **An operation on another task makes no difference.** -/
theorem perform_other (h : SameFor taskId s t) (clock : Instant) (hop : operation.taskId ≠ taskId) :
    SameFor taskId (perform clock operation s).store t := by
  constructor
  · rw [maxPageSize_perform]
    exact h.maxPageSize_eq
  · rw [TaskwiseStore.recordsOf_perform, if_neg hop]
    exact h.recordsOf_eq

/-- **An operation on the task is answered alike** and leaves the same records. -/
theorem perform (h : SameFor taskId s t) (clock : Instant) (hop : operation.taskId = taskId) :
    (perform clock operation s).answer = (perform clock operation t).answer ∧
      SameFor taskId (perform clock operation s).store (perform clock operation t).store := by
  refine ⟨?_, ?_, ?_⟩
  · refine answer_perform_congr clock operation fun request hrequest => ?_
    have hid : request.id = taskId := by
      rw [← hop, hrequest]
      rfl
    have hpage : pageRecords request s = pageRecords request t :=
      TaskwiseStore.pageRecords_congr request h.maxPageSize_eq (hid ▸ h.recordsOf_eq)
    rw [LawfulStore.answer_list, LawfulStore.answer_list, hpage]
  · rw [maxPageSize_perform, maxPageSize_perform]
    exact h.maxPageSize_eq
  · rw [TaskwiseStore.recordsOf_perform, TaskwiseStore.recordsOf_perform, if_pos hop, if_pos hop,
      h.recordsOf_eq]

end SameFor

end

/-! ## Runs -/

/-- The operations of a history on a task at their times, without tenants. -/
def operationsOn (taskId : String) (history : History) : History :=
  (history.filter fun entry => decide (entry.2.taskId = taskId)).map fun entry =>
    (entry.1, entry.2.withTenant "")

/-- The answers of a store to the operations of a history on a task, without tenants. -/
def answersOn {σ : Type} [ConfigStore σ] (taskId : String) (history : History) (store : σ) :
    List (Except Failure Answer) :=
  ((history.zip (run history store).1).filter fun entry => decide (entry.1.2.taskId = taskId)).map
    fun entry => entry.2.map (Answer.withTenant "")

section

variable {σ : Type} [ConfigStore σ] {taskId : String} {operation : Operation}

theorem operationsOn_cons (clock : Instant) (rest : History) (hop : operation.taskId = taskId) :
    operationsOn taskId ((clock, operation) :: rest) =
      (clock, operation.withTenant "") :: operationsOn taskId rest := by
  simp [operationsOn, hop]

theorem operationsOn_cons_other (clock : Instant) (rest : History) (hop : operation.taskId ≠ taskId) :
    operationsOn taskId ((clock, operation) :: rest) = operationsOn taskId rest := by
  simp [operationsOn, hop]

theorem answersOn_cons (clock : Instant) (rest : History) (store : σ)
    (hop : operation.taskId = taskId) :
    answersOn taskId ((clock, operation) :: rest) store =
      (perform clock operation store).answer.map (Answer.withTenant "") ::
        answersOn taskId rest (perform clock operation store).store := by
  simp [answersOn, run, hop]

theorem answersOn_cons_other (clock : Instant) (rest : History) (store : σ)
    (hop : operation.taskId ≠ taskId) :
    answersOn taskId ((clock, operation) :: rest) store =
      answersOn taskId rest (perform clock operation store).store := by
  simp [answersOn, run, hop]

end

/-- **The operations on a task are answered among all others as among themselves.** -/
theorem answersOn_operationsOn {σ π : Type} [Payload π] [ConfigStore σ] [RecordStore σ π]
    [TaskwiseStore σ π] {taskId : String} {s t : σ} (h : SameFor taskId s t) (history : History) :
    answersOn taskId history s = answersOn taskId (operationsOn taskId history) t := by
  induction history generalizing s t with
  | nil => rfl
  | cons entry rest ih =>
    obtain ⟨clock, operation⟩ := entry
    by_cases hop : operation.taskId = taskId
    · have htenant : (operation.withTenant "").taskId = taskId := by
        rw [Operation.taskId_withTenant, hop]
      have hcopied := onlyCopied clock operation "" t
      obtain ⟨hanswer, hsame⟩ := h.perform clock hop
      rw [answersOn_cons clock rest s hop, operationsOn_cons clock rest hop,
        answersOn_cons clock _ t htenant, hcopied.answer_eq, hcopied.store_eq, hanswer, ih hsame]
      cases (perform clock operation t).answer with
      | error failure => rfl
      | ok answer =>
        exact congrArg (fun a => Except.ok a :: _) (answer.withTenant_withTenant "" "").symm
    · rw [answersOn_cons_other clock rest s hop, operationsOn_cons_other clock rest hop]
      exact ih (h.perform_other clock hop)

/-- Histories with the same operations on a task get the same answers to them. -/
theorem answersOn_congr {σ π : Type} [Payload π] [ConfigStore σ] [RecordStore σ π]
    [TaskwiseStore σ π] {taskId : String} {first second : History}
    (h : operationsOn taskId first = operationsOn taskId second) (store : σ) :
    answersOn taskId first store = answersOn taskId second store := by
  have hsame : SameFor taskId store store := ⟨rfl, rfl⟩
  rw [answersOn_operationsOn hsame first, answersOn_operationsOn hsame second, h]

/-- **Tasks do not meet**: whatever two histories do to other tasks, if their operations on a task are the
    same, each store answers these alike; and a tenant is only copied into the answer to its request. -/
theorem tasks_isolated (db : Database) (memory : Memory) (taskId : String) (first second : History)
    (h : operationsOn taskId first = operationsOn taskId second) :
    (answersOn taskId first db = answersOn taskId second db ∧
      answersOn taskId first memory = answersOn taskId second memory) ∧
    ∀ clock operation tenant,
      OnlyCopied clock operation tenant db ∧ OnlyCopied clock operation tenant memory := by
  refine ⟨⟨answersOn_congr h db, answersOn_congr h memory⟩, ?_⟩
  intro clock operation tenant
  exact ⟨onlyCopied clock operation tenant db, onlyCopied clock operation tenant memory⟩

/-- Configs of one id in three tasks, two of which are emptied, a token for a place in another task, and
    two tenants. -/
theorem tasks_isolated_of_foreign_token :
    let config : PushConfig := ⟨"https://example.org", some "a", none, none⟩
    let other : PushConfig := ⟨"https://example.com", some "a", some "x", none⟩
    let clock : Instant := ⟨1500, by decide, by decide⟩
    let first : History :=
      [(clock, .set "t" config), (.epoch, .set "u" other), (clock, .list ⟨"t", 1, some "0:a", "x"⟩),
        (.epoch, .delete "u" (some "a")), (clock, .delete "t" (some "a")),
        (clock, .list ⟨"t", 0, none, "x"⟩)]
    let second : History :=
      [(clock, .set "t" config), (clock, .list ⟨"t", 1, some "0:a", "y"⟩), (clock, .set "v" other),
        (clock, .delete "t" (some "a")), (clock, .list ⟨"t", 0, none, ""⟩)]
    operationsOn "t" first = operationsOn "t" second ∧
      answersOn "t" first (ConfigStore.empty 1 : Database) =
        answersOn "t" second (ConfigStore.empty 1 : Database) := by
  intro config other clock first second
  have hoperations : operationsOn "t" first = operationsOn "t" second := by decide
  exact ⟨hoperations, (tasks_isolated _ (ConfigStore.empty 1) "t" first second hoperations).1.1⟩

end WebhookRegistry
