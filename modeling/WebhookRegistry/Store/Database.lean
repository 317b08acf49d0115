/-
  The store that keeps configs in a table.

  Payloads are written when a config is set and read when it is listed. Listing asks the table for one
  row more than the page holds, to learn whether another page follows; only the rows of the page itself
  are read, and the first unreadable one fails the whole page. That row is logged where it is read, and
  every failure is logged once more before it leaves the listing.
-/
import WebhookRegistry.Store.Table

namespace WebhookRegistry

/-- A table with the maximum page size of its listings. -/
structure Database where
  maxPageSize : Int
  table : Table
  deriving Repr

namespace Database

/-- Stores a config with a given writer of payloads; `none` is a config that it rejects. -/
def setWith (writer : PushConfig → Option String) (clock : Instant) (taskId : String)
    (config : PushConfig) (db : Database) : Outcome Database PushConfig :=
  let config := config.withDefaultId taskId
  let key := ConfigKey.resolve taskId config.id
  match writer config with
  | none => ⟨.error (.unwritable key), db, [.saving key, .serializationFailed key]⟩
  | some payload =>
    let (table, isNew) := db.table.upsert clock key payload
    ⟨.ok config, { db with table := table },
      [.saving key, if isNew then .persisted key else .updated key]⟩

/-- Stores a config. -/
def set (clock : Instant) (taskId : String) (config : PushConfig) (db : Database) :
    Outcome Database PushConfig :=
  setWith (fun config => some (Schema.writeText config)) clock taskId config db

/-- Reads the payload of a row; one that is unreadable is logged and fails. -/
def loadConfig (row : Row) : Logged PushConfig :=
  match row.config with
  | .ok config => pure config
  | .error invalid => do
    Logged.log (.deserializationFailed row.1 invalid)
    throw (.unreadable row.1 invalid)

/-- Reads the payloads of rows in order. -/
def loadConfigs : List Row → Logged (List PushConfig)
  | [] => pure []
  | row :: rest => do
    let config ← loadConfig row
    let configs ← loadConfigs rest
    return config :: configs

/-- The rows of one page and the token of the next page. -/
def pageRows (request : ListRequest) (db : Database) : Except Failure (List Row × Option String) :=
  match PageToken.decode request.pageToken with
  | .error fault => .error (.token fault)
  | .ok cursor =>
    let size := request.effectivePageSize db.maxPageSize
    match db.table.page request.id cursor (size + 1) with
    | .error fault => .error (.limit fault)
    | .ok rows => .ok (Keyset.cut Row.position size.toNat rows)

/-- One page of the configs of a task. -/
def loadPage (request : ListRequest) (db : Database) : Logged ConfigPage := do
  let (rows, next) ← Logged.ofExcept (db.pageRows request)
  let configs ← loadConfigs rows
  Logged.log (.retrieved request.id configs.length)
  return ConfigPage.of request configs next

/-- Logs why listing failed, a malformed request apart from other failures, and fails again. -/
def failAgain (taskId : String) (failure : Failure) : Logged ConfigPage := do
  match failure.report with
  | some (.invalidParams message) => Logged.log (.invalidParams taskId message)
  | _ => Logged.log (.retrievalFailed taskId)
  throw failure

/-- Lists one page. -/
def list (request : ListRequest) (db : Database) : Outcome Database ConfigPage :=
  let call : Logged ConfigPage := do
    Logged.log (.retrieving request.id request.pageSize request.pageToken)
    try db.loadPage request catch failure => failAgain request.id failure
  ⟨call.answer, db, call.events⟩

/-- Deletes a config if it exists. -/
def delete (taskId : String) (configId : Option String) (db : Database) : Outcome Database Unit :=
  let key := ConfigKey.resolve taskId configId
  match db.table.get? key with
  | none => ⟨.ok (), db, [.deleting key, .notFoundForDeletion key]⟩
  | some _ =>
    ⟨.ok (), { db with table := db.table.erase key }, [.deleting key, .deleted key]⟩

instance : ConfigStore Database where
  empty maxPageSize := ⟨maxPageSize, []⟩
  set := set
  list := list
  delete := delete

/-! ## Direct changes -/

/-- Changes the row under a key; the answer counts the rows changed. -/
def change (key : ConfigKey) (f : Stored String → Stored String) (db : Database) : Database × Nat :=
  match db.table.get? key with
  | none => (db, 0)
  | some _ => ({ db with table := db.table.modify key f }, 1)

/-- Listing changes nothing. -/
@[simp] theorem store_list (request : ListRequest) (db : Database) :
    (db.list request).store = db := rfl

end Database

end WebhookRegistry
