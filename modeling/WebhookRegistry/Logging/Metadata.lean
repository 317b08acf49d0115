/-
  Metadata that is added to log events.

  An event is a list of fields in order. A piece of metadata is put under its key: a field that the event
  has already is overwritten where it stands, a new one goes to the end. The request id is added only
  when there is one that is not empty.
-/
import WebhookRegistry.Entries
import WebhookRegistry.Json.Basic

namespace WebhookRegistry

/-- The fields of a log event in order. -/
abbrev LogFields := Entries String Json

/-- Where events are logged: in a service, on a thread of a process, perhaps for a request. -/
structure Surroundings where
  requestId : Option String
  serviceName : String
  environment : String
  processId : Nat
  threadId : Nat
  deriving DecidableEq, Repr, Inhabited

/-- A kind of metadata. -/
inductive Metadata where
  | request
  | service
  | process
  deriving DecidableEq, Repr

namespace Metadata

/-- The fields that a kind of metadata puts into an event. -/
def additions (surroundings : Surroundings) : Metadata → LogFields
  | .request =>
    match surroundings.requestId with
    | none => []
    | some id => if id.isEmpty then [] else [("request_id", .str id)]
  | .service =>
    [("service_name", .str surroundings.serviceName),
     ("environment", .str surroundings.environment)]
  | .process =>
    [("process_id", .int surroundings.processId), ("thread_id", .int surroundings.threadId)]

/-- An event with one kind of metadata. -/
def add (surroundings : Surroundings) (fields : LogFields) (kind : Metadata) : LogFields :=
  (kind.additions surroundings).foldl (fun fields (key, v) => fields.put key v) fields

/-- An event with several kinds of metadata, added one after another. -/
def addAll (surroundings : Surroundings) (chain : List Metadata) (fields : LogFields) : LogFields :=
  chain.foldl (add surroundings) fields

/-- Adding no metadata changes nothing. -/
theorem addAll_nil (surroundings : Surroundings) (fields : LogFields) :
    addAll surroundings [] fields = fields := rfl

end Metadata

end WebhookRegistry
