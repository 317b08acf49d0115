/-
  Errors that the service reports to its callers.

  Each has a message and may have the code under which a remote caller sees it: a malformed request and
  an internal failure have one each, the others have none unless it is given. Where a failure comes from
  below the service, its message ends in a text that is not the service's own (`Wording`).
-/
import WebhookRegistry.Schema.Described

namespace WebhookRegistry

/-- The texts of failures that come from below the service, where values are validated, written and turned
    into text or numbers. Nothing is known of them. -/
class Wording where
  /-- What is wrong with a value that was refused. -/
  invalid : Schema.Invalid → String
  /-- Why a config cannot be written. -/
  unwritable : String
  /-- Why a value has no text. -/
  noText : String
  /-- Why a value is no integer. -/
  noInteger : String

/-- The code of a malformed request. -/
def invalidParamsCode : Int := -32602

/-- The code of an internal failure. -/
def internalErrorCode : Int := -32603

/-- An error of the service. -/
inductive ServiceError where
  | general (message : String) (code : Option Int)
  | invalidParams (message : String)
  | format (message : String)
  | store (message : String) (taskId : String) (configId : Option String)
  | propertyNotSet (name : String)
  deriving DecidableEq, Repr

namespace ServiceError

/-- The message for people. -/
def message : ServiceError → String
  | .general message _ => message
  | .invalidParams message => message
  | .format message => message
  | .store message _ _ => message
  | .propertyNotSet name => "Configuration property '" ++ name ++ "' is not set"

/-- The code for remote callers. -/
def code : ServiceError → Option Int
  | .general _ code => code
  | .invalidParams _ => some invalidParamsCode
  | .format _ => none
  | .store _ _ _ => some internalErrorCode
  | .propertyNotSet _ => none

/-- Whether the client sent a malformed request. -/
def isInvalidParams : ServiceError → Bool
  | .invalidParams _ => true
  | _ => false

/-- Whether the store failed on a config. -/
def isStore : ServiceError → Bool
  | .store _ _ _ => true
  | _ => false

end ServiceError

/-! ## Payloads -/

/-- What is wrong with a payload: a config cannot be written as one, or it cannot be read. -/
inductive PayloadFault where
  | unwritable
  | unreadable (invalid : Schema.Invalid)
  deriving DecidableEq, Repr

/-- The error about a payload. -/
def PayloadFault.error [Wording] : PayloadFault → ServiceError
  | .unwritable => .format ("Cannot serialize push notification config: " ++ Wording.unwritable)
  | .unreadable invalid =>
    .format ("Cannot deserialize push notification config: " ++ Wording.invalid invalid)

end WebhookRegistry
