/-
  Log events of the stores, of their selection and of the page size setting.

  An event has a name, a level and fields. The outcome of each operation can be told from its events: of
  a set exactly one of `persisted` and `updated`, of a delete one of `deleted` and `notFoundForDeletion`.
-/
import WebhookRegistry.Logging.Level
import WebhookRegistry.Settings.Property
import WebhookRegistry.Store.Key

namespace WebhookRegistry

/-! ## Page size faults -/

/-- The property with the maximum page size. -/
def maxPageSizeProperty : String := "a2a.push-notification-config.max-page-size"

/-- The maximum page size where the property does not give a usable one. -/
def defaultMaxPageSize : Int := 100

/-- Why the maximum page size is not taken from its property. -/
inductive PageSizeFault where
  | noValue (fault : PropertyFault)
  | notInteger
  | notPositive
  deriving DecidableEq, Repr

/-- Why the property is not used, for people. -/
def PageSizeFault.message [Wording] : PageSizeFault → String
  | .noValue fault => fault.message
  | .notInteger => Wording.noInteger
  | .notPositive => maxPageSizeProperty ++ " must be positive"

/-! ## Events -/

/-- A log event. -/
inductive Event where
  | saving (key : ConfigKey)
  | serializationFailed (key : ConfigKey)
  | persisted (key : ConfigKey)
  | updated (key : ConfigKey)
  | retrieving (taskId : String) (pageSize : Int) (pageToken : Option String)
  | invalidParams (taskId : String) (message : String)
  | deserializationFailed (key : ConfigKey) (invalid : Schema.Invalid)
  | retrievalFailed (taskId : String)
  | retrieved (taskId : String) (count : Nat)
  | deleting (key : ConfigKey)
  | notFoundForDeletion (key : ConfigKey)
  | deleted (key : ConfigKey)
  | storeSelected (backend : String)
  | maxPageSizeInvalid (fault : PageSizeFault)
  deriving DecidableEq, Repr

namespace Event

/-- The name of an event. -/
def name : Event → String
  | .saving _ => "push_config_saving"
  | .serializationFailed _ => "push_config_serialization_failed"
  | .persisted _ => "push_config_persisted"
  | .updated _ => "push_config_updated"
  | .retrieving _ _ _ => "push_configs_retrieving"
  | .invalidParams _ _ => "push_configs_invalid_params"
  | .deserializationFailed _ _ => "push_config_deserialization_failed"
  | .retrievalFailed _ => "push_configs_retrieval_failed"
  | .retrieved _ _ => "push_configs_retrieved"
  | .deleting _ => "push_config_deleting"
  | .notFoundForDeletion _ => "push_config_not_found_for_deletion"
  | .deleted _ => "push_config_deleted"
  | .storeSelected _ => "push_config_store_selected"
  | .maxPageSizeInvalid _ => "max_page_size_config_invalid"

/-- The level of an event. -/
def level : Event → Level
  | .serializationFailed _ => .error
  | .invalidParams _ _ => .warning
  | .deserializationFailed _ _ => .error
  | .retrievalFailed _ => .error
  | .storeSelected _ => .info
  | .maxPageSizeInvalid _ => .warning
  | _ => .debug

/-- Whether an event is logged together with the failure that led to it. -/
def hasFailure : Event → Bool
  | .retrievalFailed _ => true
  | _ => false

/-- The two fields that name a stored config. -/
def keyFields (key : ConfigKey) : List (String × Json) :=
  [("task_id", .str key.taskId), ("config_id", .str key.configId)]

/-- The fields of an event. -/
def fields [Wording] : Event → List (String × Json)
  | .saving key => keyFields key
  | .serializationFailed key =>
    keyFields key ++ [("error", .str PayloadFault.unwritable.error.message)]
  | .persisted key => keyFields key
  | .updated key => keyFields key
  | .retrieving taskId pageSize pageToken =>
    [("task_id", .str taskId), ("page_size", .int pageSize), ("page_token", Json.ofText? pageToken)]
  | .invalidParams taskId message => [("task_id", .str taskId), ("error", .str message)]
  | .deserializationFailed key invalid =>
    keyFields key ++ [("error", .str (PayloadFault.unreadable invalid).error.message)]
  | .retrievalFailed taskId => [("task_id", .str taskId)]
  | .retrieved taskId count => [("task_id", .str taskId), ("count", .int count)]
  | .deleting key => keyFields key
  | .notFoundForDeletion key => keyFields key
  | .deleted key => keyFields key
  | .storeSelected backend => [("backend", .str backend)]
  | .maxPageSizeInvalid fault =>
    [("property", .str maxPageSizeProperty), ("default", .int defaultMaxPageSize),
     ("error", .str fault.message)]

end Event

end WebhookRegistry
