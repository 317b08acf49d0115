/-
  What every store of configs offers.

  A store sets, lists and deletes the configs of tasks. Each operation gives an `Outcome`: its answer or
  a failure, the store afterwards and the events that it logged. `perform` and `run` put the operations
  into one type, so that histories can be told as lists and two stores can be compared step by step.

  A call that logs on its way is a `Logged` one: what it has logged stays in the log when it fails, and
  whoever handles the failure may log more.
-/
import WebhookRegistry.Event
import WebhookRegistry.Paging.Keyset

namespace WebhookRegistry

/-- A stored payload with the time at which it was first stored; old records may have none. -/
structure Stored (π : Type) where
  createdAt : Option Instant
  payload : π
  deriving DecidableEq, Repr, Inhabited

/-! ## Failures -/

/-- Why an operation of a store failed. -/
inductive Failure where
  | token (fault : PageToken.Fault)
  | limit (fault : Keyset.LimitFault)
  | unwritable (key : ConfigKey)
  | unreadable (key : ConfigKey) (invalid : Schema.Invalid)
  deriving DecidableEq, Repr

namespace Failure

/-- The message about a config that the store failed on. -/
def aboutConfig (action : String) (key : ConfigKey) : ServiceError :=
  .store ("Failed to " ++ action ++ " PushNotificationConfig for Task '" ++ key.taskId ++
    "' with ID: " ++ key.configId) key.taskId (some key.configId)

/-- The error that a caller sees; two failures have no error of the service. -/
def report : Failure → Option ServiceError
  | .token .tooManyDigits => none
  | .token fault => some (.invalidParams fault.message)
  | .limit _ => none
  | .unwritable key => some (aboutConfig "serialize" key)
  | .unreadable key _ => some (aboutConfig "deserialize" key)

/-- What a failure is raised from: a number of milliseconds that no calendar holds, or the error about a
    payload. -/
inductive Cause where
  | outOfCalendar
  | payload (fault : PayloadFault)
  deriving DecidableEq, Repr

/-- The cause of a failure, if it is raised from another error. -/
def cause? : Failure → Option Cause
  | .token .outOfRange => some .outOfCalendar
  | .token _ => none
  | .limit _ => none
  | .unwritable _ => some (.payload .unwritable)
  | .unreadable _ invalid => some (.payload (.unreadable invalid))

end Failure

/-! ## Calls that log -/

/-- What came of a call: an answer or a failure, and the events logged until then. -/
structure Logged (α : Type) where
  answer : Except Failure α
  events : List Event

namespace Logged

variable {α β : Type}

/-- Goes on after a call, unless it failed. -/
def andThen (call : Logged α) (next : α → Logged β) : Logged β :=
  match call.answer with
  | .ok a =>
    let rest := next a
    ⟨rest.answer, call.events ++ rest.events⟩
  | .error failure => ⟨.error failure, call.events⟩

/-- Handles the failure of a call; what was logged until then stays. -/
def orElse (call : Logged α) (handler : Failure → Logged α) : Logged α :=
  match call.answer with
  | .ok _ => call
  | .error failure =>
    let rest := handler failure
    ⟨rest.answer, call.events ++ rest.events⟩

instance : Monad Logged where
  pure a := ⟨.ok a, []⟩
  bind := andThen

instance : MonadExcept Failure Logged where
  throw failure := ⟨.error failure, []⟩
  tryCatch := orElse

/-- Logs an event. -/
def log (event : Event) : Logged Unit := ⟨.ok (), [event]⟩

/-- A result without any event. -/
def ofExcept (answer : Except Failure α) : Logged α := ⟨answer, []⟩

end Logged

/-! ## Outcomes -/

/-- What came of an operation: an answer or a failure, the store afterwards and the events logged. -/
structure Outcome (σ α : Type) where
  answer : Except Failure α
  store : σ
  events : List Event

/-- The outcome with another form of answer. -/
def Outcome.map {σ α β : Type} (f : α → β) (outcome : Outcome σ α) : Outcome σ β :=
  ⟨outcome.answer.map f, outcome.store, outcome.events⟩

/-- A store of configs. -/
class ConfigStore (σ : Type) where
  /-- An empty store with a maximum page size. -/
  empty : Int → σ
  /-- Stores a config for a task at a time on the clock; the answer is the config as stored. -/
  set : Instant → String → PushConfig → σ → Outcome σ PushConfig
  /-- Lists one page of a task's configs, newest first. -/
  list : ListRequest → σ → Outcome σ ConfigPage
  /-- Deletes a config if it exists. -/
  delete : String → Option String → σ → Outcome σ Unit

/-- One page for a request: the configs with the task and the tenant of the request. -/
def ConfigPage.of (request : ListRequest) (configs : List PushConfig) (next : Option String) :
    ConfigPage :=
  ⟨configs.map fun config => ⟨request.id, config, request.tenant⟩, next⟩

/-! ## Histories -/

/-- An operation on a store. -/
inductive Operation where
  | set (taskId : String) (config : PushConfig)
  | list (request : ListRequest)
  | delete (taskId : String) (configId : Option String)
  deriving DecidableEq, Repr

/-- The answer to an operation. -/
inductive Answer where
  | stored (config : PushConfig)
  | listed (page : ConfigPage)
  | done
  deriving DecidableEq, Repr

section

variable {σ : Type} [ConfigStore σ]

/-- Performs an operation at a time on the clock. -/
def perform (clock : Instant) (operation : Operation) (store : σ) : Outcome σ Answer :=
  match operation with
  | .set taskId config => (ConfigStore.set clock taskId config store).map .stored
  | .list request => (ConfigStore.list request store).map .listed
  | .delete taskId configId => (ConfigStore.delete taskId configId store).map fun _ => .done

/-- Performs operations one after another, each at its time: the answers, the store at the end and all
    events. -/
def run : List (Instant × Operation) → σ → List (Except Failure Answer) × σ × List Event
  | [], store => ([], store, [])
  | (clock, operation) :: rest, store =>
    let first := perform clock operation store
    let (answers, last, events) := run rest first.store
    (first.answer :: answers, last, first.events ++ events)

/-! ## Following page tokens -/

/-- Lists pages one after another until there is no next token, at most `bound` of them. A failure ends
    the listing. -/
def listPages : Nat → ListRequest → σ → Outcome σ (List ConfigPage)
  | 0, _, store => ⟨.ok [], store, []⟩
  | bound + 1, request, store =>
    let first := ConfigStore.list request store
    match first.answer with
    | .error failure => ⟨.error failure, first.store, first.events⟩
    | .ok page =>
      match page.nextPageToken with
      | none => ⟨.ok [page], first.store, first.events⟩
      | some token =>
        let rest := listPages bound { request with pageToken := some token } first.store
        ⟨rest.answer.map (page :: ·), rest.store, first.events ++ rest.events⟩

end

end WebhookRegistry
