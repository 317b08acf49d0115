/-
  The store that a process uses.

  A setting names the kind of store. The first request for the store builds it from the settings of that
  moment and keeps it; later requests get the same one, whatever the settings have become, until it is
  reset. A request that fails keeps nothing. Each request comes with the room that its stack leaves for
  turning a settings value into text.
-/
import WebhookRegistry.Settings.MaxPageSize

namespace WebhookRegistry

/-- A kind of store. -/
inductive Backend where
  | database
  | memory
  deriving DecidableEq, Repr

namespace Backend

/-- The name of a kind of store in the settings. -/
def name : Backend → String
  | .database => "database"
  | .memory => "memory"

/-- Why a setting names no kind of store: it cannot be a name, it has no text, or its text is none of the
    names. -/
inductive Fault where
  | notName
  | noText (fault : Json.TextFault)
  | unknown (text : String)
  deriving DecidableEq, Repr

/-- The message about a text that is none of the names; the other faults have none of the service's
    own. -/
def Fault.message? : Fault → Option String
  | .notName => none
  | .noText _ => none
  | .unknown text =>
    some ("Unknown PUSH_NOTIFICATION_CONFIG_STORE '" ++ text ++ "'; expected one of: " ++
      ", ".intercalate [Backend.database.name, Backend.memory.name])

/-- The kind of store that a text names. -/
def ofName (text : String) : Except Fault Backend :=
  if text = Backend.database.name then .ok .database
  else if text = Backend.memory.name then .ok .memory
  else .error (.unknown text)

/-- The kind of store that a setting names; without the setting it is the database. A value that is no text
    is turned into one for the message. -/
def ofSetting (room : Nat) : Option Json → Except Fault Backend
  | none => .ok .database
  | some (.str text) => ofName text
  | some (.arr _) => .error .notName
  | some (.obj _) => .error .notName
  | some v =>
    match v.text room with
    | .ok text => .error (.unknown text)
    | .error fault => .error (.noText fault)

end Backend

namespace Factory

/-- The settings that the factory reads. -/
structure Settings where
  backend : Option Json
  properties : List (String × Json)

/-- A store that was built: its number, its kind and its maximum page size. -/
structure Built where
  number : Nat
  backend : Backend
  maxPageSize : Int
  deriving DecidableEq, Repr

/-- Why no store could be built. -/
inductive Fault where
  | backend (fault : Backend.Fault)
  | maxPageSize (refusal : MaxPageSize.Refusal)
  deriving DecidableEq, Repr

end Factory

/-- The store kept for the process, and how many have been built. -/
structure Factory where
  kept : Option Factory.Built
  count : Nat

namespace Factory

/-- A factory that has built nothing. -/
def empty : Factory := ⟨none, 0⟩

/-- Drops the store that is kept. -/
def reset (factory : Factory) : Factory := { factory with kept := none }

/-- The store of the process with the events logged, and the factory afterwards. The kind of store is logged
    before the store is built. -/
def get (room : Nat) (settings : Settings) (factory : Factory) :
    (Except Fault Built × List Event) × Factory :=
  match factory.kept with
  | some built => ((.ok built, []), factory)
  | none =>
    match Backend.ofSetting room settings.backend with
    | .error fault => ((.error (.backend fault), []), factory)
    | .ok backend =>
      match MaxPageSize.load room ⟨[], settings.properties⟩ with
      | .error refusal => ((.error (.maxPageSize refusal), [.storeSelected backend.name]), factory)
      | .ok size =>
        let built : Built := ⟨factory.count, backend, size.value⟩
        ((.ok built, .storeSelected backend.name :: size.events),
          ⟨some built, factory.count + 1⟩)

/-! ## Whole runs -/

/-- What happens to a factory: settings change, the store is dropped, or it is asked for. -/
inductive Step where
  | settings (settings : Settings)
  | reset
  | get (room : Nat)

/-- Runs steps from some settings: for each request for the store its answer and events. -/
def run : List Step → Settings → Factory → List (Except Fault Built × List Event)
  | [], _, _ => []
  | .settings settings :: rest, _, factory => run rest settings factory
  | .reset :: rest, settings, factory => run rest settings factory.reset
  | .get room :: rest, settings, factory =>
    let (answer, factory) := factory.get room settings
    answer :: run rest settings factory

end Factory

end WebhookRegistry
