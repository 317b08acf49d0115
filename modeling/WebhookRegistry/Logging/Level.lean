/-
  Levels of log events, and the threshold below which events are dropped.

  A threshold is chosen by name. Several names stand for one level, and a name that stands for none
  chooses that of `info`; two names belong to other things of the logging system and are refused.
-/
namespace WebhookRegistry

/-- How serious a log event is. -/
inductive Level where
  | debug
  | info
  | warning
  | error
  | critical
  deriving DecidableEq, Repr, Inhabited

namespace Level

/-- The number by which levels are compared with a threshold. -/
def number : Level → Nat
  | .debug => 10
  | .info => 20
  | .warning => 30
  | .error => 40
  | .critical => 50

/-- The name of a level, as events carry it. -/
def name : Level → String
  | .debug => "debug"
  | .info => "info"
  | .warning => "warning"
  | .error => "error"
  | .critical => "critical"

/-- The level that a caller logs at, by name; some levels have two names, and logging an exception is
    logging an error. -/
def ofName? (name : String) : Option Level :=
  match name with
  | "debug" => some .debug
  | "info" => some .info
  | "warning" => some .warning
  | "warn" => some .warning
  | "error" => some .error
  | "exception" => some .error
  | "critical" => some .critical
  | "fatal" => some .critical
  | _ => none

end Level

/-! ## Thresholds -/

/-- A name that chooses no threshold because it belongs to something else: to a text or to a table. -/
inductive ThresholdFault where
  | text
  | table
  deriving DecidableEq, Repr

/-- The number of the least level that is logged, by the upper-case name of a level. -/
def thresholdOf (name : String) : Except ThresholdFault Nat :=
  match name with
  | "CRITICAL" => .ok Level.critical.number
  | "FATAL" => .ok Level.critical.number
  | "ERROR" => .ok Level.error.number
  | "WARNING" => .ok Level.warning.number
  | "WARN" => .ok Level.warning.number
  | "INFO" => .ok Level.info.number
  | "DEBUG" => .ok Level.debug.number
  | "NOTSET" => .ok 0
  | "BASIC_FORMAT" => .error .text
  | "_STYLES" => .error .table
  | _ => .ok Level.info.number

end WebhookRegistry
