/-
  A log event as a coloured line on the console.

  The line has the level in its colour, the time, the request id, the logger and the name of the event;
  the other fields follow as `key=value`, except the metadata that would only be noise. Values stand as
  they are, so a line break in a value breaks the line. An event with a value that has no text has no line.
-/
import WebhookRegistry.Json.Display
import WebhookRegistry.Logging.Metadata
import WebhookRegistry.Text.Uppercase

namespace WebhookRegistry.ConsoleLine

/-! ## Colours -/

/-- Ends every colour. -/
def plain : String := "\x1b[0m"

/-- The colour of a level, by its upper-case name. -/
def levelColour (level : String) : String :=
  match level with
  | "DEBUG" => "\x1b[36m"
  | "INFO" => "\x1b[32m"
  | "WARNING" => "\x1b[33m"
  | "ERROR" => "\x1b[31m"
  | "CRITICAL" => "\x1b[31m\x1b[1m"
  | _ => "\x1b[37m"

/-- A text in a colour. -/
def coloured (colour text : String) : String := colour ++ text ++ plain

/-! ## The line -/

/-- The fields that have a place of their own in the line or are left out of it. -/
def hiddenKeys : List String :=
  ["level", "timestamp", "request_id", "logger", "event", "process_id", "thread_id", "service_name",
   "environment"]

/-- The text of a field, or another text if the event has no such field. -/
def fieldText (room : Nat) (fields : LogFields) (key default : String) :
    Except Json.TextFault String :=
  match fields.get? key with
  | some v => v.text room
  | none => .ok default

/-- A text filled up with blanks to a width. -/
def padRight (width : Nat) (text : String) : String :=
  text ++ String.ofList (List.replicate (width - text.length) ' ')

/-- The fields that are shown with their keys. -/
def shownFields (fields : LogFields) : LogFields :=
  fields.filter fun (key, _) => !hiddenKeys.contains key

/-- A field with its key. -/
def pairText (room : Nat) (field : String × Json) : Except Json.TextFault String :=
  (field.2.text room).map (field.1 ++ "=" ++ ·)

/-- What stands in the places of a line. -/
structure Parts where
  level : String
  time : String
  requestId : String
  logger : String
  event : String
  pairs : List String

/-- What an event has for the places of its line, with room for so many values inside each of its values. -/
def parts (room : Nat) (fields : LogFields) : Except Json.TextFault Parts := do
  let level ← fieldText room fields "level" "INFO"
  let time ← fieldText room fields "timestamp" ""
  let requestId ← fieldText room fields "request_id" "no-request-id"
  let logger ← fieldText room fields "logger" "root"
  let event ← fieldText room fields "event" ""
  let pairs ← (shownFields fields).mapM (pairText room)
  return ⟨level, time, requestId, logger, event, pairs⟩

/-- The line with its places filled. -/
def Parts.line (parts : Parts) : String :=
  let level := Text.upper parts.level
  let rest := " ".intercalate parts.pairs
  coloured (levelColour level) ("[" ++ padRight 8 level ++ "]") ++ " " ++
    coloured "\x1b[37m" parts.time ++ " | " ++
    coloured "\x1b[35m" parts.requestId ++ " | " ++
    coloured "\x1b[34m" parts.logger ++ " | " ++
    parts.event ++
    (if rest.isEmpty then "" else " " ++ coloured "\x1b[33m" rest)

/-- The line of an event. -/
def render (room : Nat) (fields : LogFields) : Except Json.TextFault String :=
  (parts room fields).map Parts.line

end WebhookRegistry.ConsoleLine
