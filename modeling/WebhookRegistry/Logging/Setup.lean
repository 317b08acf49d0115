/-
  Logging as it is set up for the service.

  Events go to two sinks, a file of JSON objects and coloured lines on the console. The sinks are at the
  root, so they get the events of the loggers that reach it; the root and each sink have a threshold.
  There are two ways to log: a structured call has an event and fields, a template call has a message
  made from a template, as libraries log. The processors of a structured call run when it is made, for
  both sinks at once; a template call is made into an event by each sink, with processors of its own. On
  the console these leave out the metadata of the service and the process, which are not shown there.

  A sink loses an event that it cannot write, and goes on with the next one: a message that cannot be made
  from its template, a value with an integer that is too long, a value nested deeper than the stack has
  room for. Only the console tells the caller of the last kind.
-/
import WebhookRegistry.Logging.ConsoleLine
import WebhookRegistry.Logging.Level
import WebhookRegistry.Logging.LogFile
import WebhookRegistry.Logging.Logger
import WebhookRegistry.Logging.PlainText
import WebhookRegistry.Logging.Template
import WebhookRegistry.Settings.Environment

namespace WebhookRegistry

/-- Whether a value counts as true: all but null, false, zero and what is empty. -/
def isOn : Json → Bool
  | .null => false
  | .bool b => b
  | .int n => n != 0
  | .float (.finite _ mantissa _) => mantissa != 0
  | .float _ => true
  | .str s => !s.isEmpty
  | .arr items => !items.isEmpty
  | .obj members => !members.isEmpty

/-! ## Sinks -/

/-- The size at which the log file is rotated. -/
def maxLogFileMegabytes : Nat := 50

/-- How many rotated files are kept. -/
def keptLogFiles : Nat := 20

/-- Where events go. -/
inductive Sink where
  | file (maxBytes kept : Nat)
  | console
  deriving DecidableEq, Repr

/-- The log file as a sink. -/
def Sink.logFile : Sink := .file (maxLogFileMegabytes * 1024 * 1024) keptLogFiles

/-! ## Calls -/

/-- What is logged. A template call may report the failure at hand with its message. -/
inductive LogMessage where
  | structured (event : Json) (fields : List (String × Json))
  | template (format : Json) (args : List Json) (failure : Bool)

/-- A call of a logger at a time; its stack is shown on demand, and leaves each sink room for so many values
    inside each value that is logged. -/
structure LogCall where
  logger : String
  level : Level
  time : String
  message : LogMessage
  stack : String
  room : Sink → Nat

namespace LogCall

/-- Why a call is refused, whatever its level: a field has the name of a part of the call itself, or the
    field for the record behind an event holds something that is no record. -/
inductive Fault where
  | takenName
  | noRecord
  deriving DecidableEq, Repr

/-- The names of the parts of a structured call. -/
def partNames : List String := ["self", "method_name", "event"]

/-- The field for the record behind an event. -/
def recordKey : String := "_record"

/-- The fields that each sink puts into an event for its own use, and takes out before it is written. -/
def sinkKeys : List String := [recordKey, "_from_structlog"]

/-- Why a call is refused, if it is. -/
def fault? (call : LogCall) : Option Fault :=
  match call.message with
  | .structured _ fields =>
    if fields.any fun (key, _) => partNames.contains key then some .takenName
    else match (Json.distinct fields).get? recordKey with
      | none | some .null => none
      | some _ => some .noRecord
  | .template _ _ _ => none

/-- The name under which a logger logs; the one without a name is the root. -/
def loggerName (call : LogCall) : String := if call.logger.isEmpty then "root" else call.logger

/-! ## Processors -/

/-- A processor of events. -/
inductive Processor where
  | level
  | logger
  | time
  | stack
  | failure
  | metadata (kind : Metadata)
  deriving DecidableEq, Repr

/-- The fields of an event after a processor. A stack is shown if a field asks for it. Calls are made
    outside any failure, so a field that asks for the failure shows nothing. -/
def process (surroundings : Surroundings) (call : LogCall) (fields : LogFields) :
    Processor → LogFields
  | .level => fields.put "level" (.str call.level.name)
  | .logger => fields.put "logger" (.str call.loggerName)
  | .time => fields.put "timestamp" (.str call.time)
  | .stack =>
    let rest := fields.erase "stack_info"
    if isOn ((fields.get? "stack_info").getD .null) then rest.put "stack" (.str call.stack) else rest
  | .failure => fields.erase "exc_info"
  | .metadata kind => kind.add surroundings fields

/-- The fields of an event after several processors. -/
def processAll (surroundings : Surroundings) (call : LogCall) (chain : List Processor)
    (fields : LogFields) : LogFields :=
  chain.foldl (process surroundings call) fields

/-- The processors with which every chain starts. -/
def sharedChain : List Processor := [.level, .logger, .time, .metadata .request]

/-- The processors of structured calls. -/
def structuredChain : List Processor :=
  sharedChain ++ [.stack, .failure, .metadata .service, .metadata .process]

/-- The processors of template calls in a sink. -/
def templateChain : Sink → List Processor
  | .file _ _ => sharedChain ++ [.metadata .service, .metadata .process]
  | .console => sharedChain

/-! ## Events -/

/-- The three parts of a failure, all empty. -/
def emptyFailure : List Json := [.null, .null, .null]

/-- An empty failure as a sink writes it. -/
def shownFailure : Sink → Json
  | .file _ _ => .arr emptyFailure
  | .console => .str "(None, None, None)"

/-- Fields with the event of a structured call after them; null is none. -/
def withEvent (event : Json) (fields : LogFields) : LogFields :=
  match event with
  | .null => fields
  | event => fields.put "event" event

/-- The event of a call with the fields that the caller gave: those of a structured call with the event
    after them, or the message of a template and the failure with it. A refused call gives none, nor does
    a template without a message. -/
def given? (call : LogCall) (sink : Sink) : Option LogFields :=
  match call.message with
  | .structured event fields =>
    match call.fault? with
    | some _ => none
    | none => some (withEvent event (Json.distinct fields))
  | .template format args failure =>
    (Template.message? (call.room sink) format args).map fun text =>
      ("event", .str text) :: (if failure then [("exc_info", shownFailure sink)] else [])

/-- The processors of a call on its way to a sink. -/
def chain (call : LogCall) (sink : Sink) : List Processor :=
  match call.message with
  | .structured _ _ => structuredChain
  | .template _ _ _ => templateChain sink

/-- An event without the fields that a sink has put into it. -/
def withoutSinkKeys (fields : LogFields) : LogFields :=
  sinkKeys.foldl (fun known key => Entries.erase key known) fields

/-- The event of a call as a sink gets to write it. -/
def event? (surroundings : Surroundings) (call : LogCall) (sink : Sink) : Option LogFields :=
  (call.given? sink).map fun fields =>
    withoutSinkKeys (processAll surroundings call (call.chain sink) fields)

/-- The object that a call writes into the file, if it can be written. -/
def object? (surroundings : Surroundings) (call : LogCall) : Option LogFields :=
  (call.event? surroundings .logFile).filter fun fields =>
    fields.all fun field => field.2.isWritable (call.room .logFile)

/-- The text that a call gives on the console, if its event can be rendered. -/
def text? (surroundings : Surroundings) (call : LogCall) : Option String :=
  (call.event? surroundings .console).bind fun fields =>
    (ConsoleLine.render (call.room .console) fields).toOption

end LogCall

/-! ## Setting up -/

/-- Logging that has been set up: the least levels that the root and the sinks take, and the loggers that
    are detached from the root. -/
structure LogSetup where
  path : String
  levelName : String
  file : LogFile
  threshold : Nat
  fileThreshold : Nat
  consoleThreshold : Nat
  detached : List String
  deriving DecidableEq, Repr

namespace LogSetup

/-- Why logging cannot be set up. The threshold is looked at when the file has been opened. -/
inductive Fault where
  | path (fault : LogFile.Fault)
  | threshold (file : LogFile) (fault : ThresholdFault)
  deriving DecidableEq, Repr

/-- Sets logging up as environment variables say. No logger is detached by that. -/
def ofEnvironment (env : Environment) : Except Fault LogSetup :=
  let path := env.getD "LOG_FILE_PATH" "./logs/push-config-store.log"
  let levelName := Text.upper (env.getD "LOG_LEVEL" "INFO")
  match LogFile.ofPath path with
  | .error fault => .error (.path fault)
  | .ok file =>
    match thresholdOf levelName with
    | .error fault => .error (.threshold file fault)
    | .ok threshold => .ok ⟨path, levelName, file, threshold, threshold, threshold, []⟩

/-- The same logging where others have detached some loggers. -/
def detach (names : List String) (setup : LogSetup) : LogSetup := { setup with detached := names }

/-- The sinks, each with the least level that it takes. -/
def sinks (setup : LogSetup) : List (Sink × Nat) :=
  [(.logFile, setup.fileThreshold), (.console, setup.consoleThreshold)]

/-- The first call: logging has been set up. -/
def firstCall (time : String) (room : Sink → Nat) (setup : LogSetup) : LogCall where
  logger := "push_config.logging.config"
  level := .info
  time := time
  stack := ""
  room := room
  message := .structured (.str "logging_configured")
    [("log_file", .str setup.path), ("log_level", .str setup.levelName),
     ("max_file_size_mb", .int maxLogFileMegabytes)]

/-- The surroundings of a service that environment variables describe. -/
def surroundings (env : Environment) (requestId : Option String) (processId threadId : Nat) :
    Surroundings where
  requestId := requestId
  serviceName := env.getD "SERVICE_NAME" "push-config-store"
  environment := env.getD "ENVIRONMENT" "development"
  processId := processId
  threadId := threadId

/-! ## Logging -/

/-- The calls that a sink with a threshold gets: those that are serious enough for the root and for the
    sink, from loggers that reach the root. -/
def passed (setup : LogSetup) (sinkThreshold : Nat) (calls : List (Surroundings × LogCall)) :
    List (Surroundings × LogCall) :=
  calls.filter fun (_, call) =>
    Logger.reachesRoot setup.detached call.logger && decide (setup.threshold ≤ call.level.number) &&
      decide (sinkThreshold ≤ call.level.number)

/-- The objects in the file after calls. -/
def fileObjects (setup : LogSetup) (calls : List (Surroundings × LogCall)) : List LogFields :=
  (setup.passed setup.fileThreshold calls).filterMap fun (surroundings, call) =>
    call.object? surroundings

/-- The events on the console after calls, each rendered with its colours. -/
def consoleTexts (setup : LogSetup) (calls : List (Surroundings × LogCall)) : List String :=
  (setup.passed setup.consoleThreshold calls).filterMap fun (surroundings, call) =>
    call.text? surroundings

/-- The lines on a console that is no terminal: without colours, and with the line feeds of values. -/
def consoleLines (setup : LogSetup) (calls : List (Surroundings × LogCall)) : List String :=
  PlainText.lines (String.join ((setup.consoleTexts calls).filterMap fun text =>
    PlainText.written? (text ++ "\n")))

end LogSetup

/-! ## Starting the service -/

/-- Logging when the service starts: set up if the setting for it is there and on. -/
def startLogging (setting : Option Json) (env : Environment) :
    Except LogSetup.Fault (Option LogSetup) :=
  match setting with
  | none => .ok none
  | some v => if isOn v then (LogSetup.ofEnvironment env).map some else .ok none

end WebhookRegistry
