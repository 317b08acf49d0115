/-
  The store that keeps configs in memory.

  For each task there is a collection of its configs by id. A task whose last config is deleted loses
  its collection, so the store does not grow with tasks that have come and gone.
-/
import WebhookRegistry.Entries
import WebhookRegistry.Store.Basic

namespace WebhookRegistry

/-- The configs of one task by id. -/
abbrev TaskConfigs := Entries String (Stored PushConfig)

/-- The configs of all tasks with the maximum page size of listings. -/
structure Memory where
  maxPageSize : Int
  tasks : Entries String TaskConfigs
  deriving Repr

namespace Memory

/-- The configs of a task; an unknown task has none. -/
def configsOf (taskId : String) (memory : Memory) : TaskConfigs :=
  (memory.tasks.get? taskId).getD []

/-- What is stored under a key. -/
def get? (key : ConfigKey) (memory : Memory) : Option (Stored PushConfig) :=
  (memory.configsOf key.taskId).get? key.configId

/-- The collection of a task with one config put into it, and whether the config is new to it. -/
def putConfig (clock : Instant) (configId : String) (config : PushConfig) (configs : TaskConfigs) :
    TaskConfigs × Bool :=
  match configs.get? configId with
  | some stored => (configs.put configId { stored with payload := config }, false)
  | none => (configs.put configId ⟨some clock.floorMillis, config⟩, true)

/-- Stores a config. -/
def set (clock : Instant) (taskId : String) (config : PushConfig) (memory : Memory) :
    Outcome Memory PushConfig :=
  let config := config.withDefaultId taskId
  let key := ConfigKey.resolve taskId config.id
  let (configs, isNew) := putConfig clock key.configId config (memory.configsOf taskId)
  ⟨.ok config, { memory with tasks := memory.tasks.put taskId configs },
    [if isNew then .persisted key else .updated key]⟩

/-- Where an entry stands among the configs of its task. -/
def position (entry : String × Stored PushConfig) : Position := ⟨entry.2.createdAt, entry.1⟩

/-- The entries of one page and the token of the next page. -/
def pageEntries (request : ListRequest) (memory : Memory) :
    Except Failure (TaskConfigs × Option String) :=
  match PageToken.decode request.pageToken with
  | .error fault => .error (.token fault)
  | .ok cursor =>
    let size := request.effectivePageSize memory.maxPageSize
    let entries := Keyset.listing position cursor (memory.configsOf request.id)
    .ok (Keyset.cut position size.toNat entries)

/-- One page of the configs of a task. -/
def page (request : ListRequest) (memory : Memory) : Except Failure ConfigPage :=
  match memory.pageEntries request with
  | .error failure => .error failure
  | .ok (entries, next) =>
    .ok (ConfigPage.of request (entries.map fun entry => entry.2.payload) next)

/-- What listing logs: only a malformed request. -/
def listEvents (taskId : String) : Except Failure ConfigPage → List Event
  | .error (.token .tooManyDigits) => []
  | .error (.token fault) => [.invalidParams taskId fault.message]
  | _ => []

/-- Lists one page. -/
def list (request : ListRequest) (memory : Memory) : Outcome Memory ConfigPage :=
  let answer := memory.page request
  ⟨answer, memory, listEvents request.id answer⟩

/-- The tasks after one of them has got a collection; an empty one is not kept. -/
def putTask (taskId : String) (configs : TaskConfigs) (tasks : Entries String TaskConfigs) :
    Entries String TaskConfigs :=
  if configs.isEmpty then tasks.erase taskId else tasks.put taskId configs

/-- Deletes a config if it exists. -/
def delete (taskId : String) (configId : Option String) (memory : Memory) : Outcome Memory Unit :=
  let key := ConfigKey.resolve taskId configId
  let configs := memory.configsOf taskId
  let tasks := putTask taskId (configs.erase key.configId) memory.tasks
  ⟨.ok (), { memory with tasks := tasks },
    [if (configs.get? key.configId).isSome then .deleted key else .notFoundForDeletion key]⟩

instance : ConfigStore Memory where
  empty maxPageSize := ⟨maxPageSize, []⟩
  set := set
  list := list
  delete := delete

/-! ## Direct changes -/

/-- Changes what is stored under a key; the answer counts the configs changed. -/
def change (key : ConfigKey) (f : Stored PushConfig → Stored PushConfig) (memory : Memory) :
    Memory × Nat :=
  match memory.get? key with
  | none => (memory, 0)
  | some _ =>
    ({ memory with tasks := memory.tasks.modify key.taskId fun configs =>
        configs.modify key.configId f }, 1)

/-- Listing changes nothing. -/
@[simp] theorem store_list (request : ListRequest) (memory : Memory) :
    (memory.list request).store = memory := rfl

end Memory

end WebhookRegistry
