/-
  Settings of the service, read from environment variables.

  Each setting has a default that suits development on one machine: a database in a file, the database
  store, structured logging. A database server is used when a database is named; the other settings of
  the server then have defaults of their own. A variable that is set to the empty text counts as set,
  except where it names a database or gives the page size.
-/
import WebhookRegistry.Entries
import WebhookRegistry.Event

namespace WebhookRegistry

/-- Environment variables with their values. -/
abbrev Environment := Entries String String

namespace Environment

/-- Why a variable cannot be set: a null character would end its name or its value, an equals sign would
    end its name, or it has no name at all. -/
inductive Fault where
  | nullCharacter
  | equalsSign
  | noName
  deriving DecidableEq, Repr

/-- What keeps a variable from being set to a value, if anything does. -/
def fault? (name v : String) : Option Fault :=
  if name.contains '\x00' || v.contains '\x00' then some .nullCharacter
  else if name.contains '=' then some .equalsSign
  else if name.isEmpty then some .noName
  else none

/-- Sets a variable, in place of an earlier value if it has one. -/
def set (name v : String) (env : Environment) : Except Fault Environment :=
  match fault? name v with
  | some fault => .error fault
  | none => .ok (Entries.put name v env)

/-- The value of a variable, or a default if it is not set. -/
def getD (env : Environment) (name default : String) : String := (env.get? name).getD default

/-- The value of a variable if it is set to a text that is not empty. -/
def nonempty? (env : Environment) (name : String) : Option String :=
  match env.get? name with
  | none => none
  | some text => if text.isEmpty then none else some text

/-- Whether a variable says true, in any case of letters; a default stands for one that is not set. -/
def flag (env : Environment) (name default : String) : Bool :=
  (env.getD name default).toLower == "true"

/-- **A variable that could be set has its value**, and the others keep theirs. -/
theorem get?_of_set {name other v : String} {env after : Environment}
    (h : env.set name v = .ok after) :
    Entries.get? other after = if name = other then some v else Entries.get? other env := by
  unfold set at h
  split at h
  · cases h
  · cases h
    exact Entries.get?_put name other v env

end Environment

/-! ## Settings -/

/-- The database of the service: a file in the base directory or a schema on a server. -/
inductive DatabaseSettings where
  | file
  | server (name user password host port schema : String)
  deriving DecidableEq, Repr

/-- The settings of the service. -/
structure ServiceSettings where
  secretKey : String
  debug : Bool
  database : DatabaseSettings
  store : String
  maxPageSize : Option String
  structuredLogging : Bool
  deriving DecidableEq, Repr

namespace ServiceSettings

/-- The settings that environment variables give. -/
def ofEnvironment (env : Environment) : ServiceSettings where
  secretKey := env.getD "DJANGO_SECRET_KEY" "insecure-dev-only-key"
  debug := env.flag "DEBUG" "false"
  database :=
    match env.nonempty? "POSTGRES_DB" with
    | none => .file
    | some name =>
      .server name (env.getD "POSTGRES_USER" "postgres") (env.getD "POSTGRES_PASSWORD" "")
        (env.getD "POSTGRES_HOST" "localhost") (env.getD "POSTGRES_PORT" "5432")
        (env.getD "POSTGRES_SCHEMA" "public")
  store := env.getD "PUSH_NOTIFICATION_CONFIG_STORE" "database"
  maxPageSize := env.nonempty? "A2A_PUSH_NOTIFICATION_CONFIG_MAX_PAGE_SIZE"
  structuredLogging := env.flag "STRUCTURED_LOGGING" "true"

/-- The configuration properties that the settings define. -/
def properties (settings : ServiceSettings) : List (String × Json) :=
  match settings.maxPageSize with
  | none => []
  | some text => [(maxPageSizeProperty, .str text)]

/-! ## The settings by name -/

/-- The database as the database layer wants it. -/
def databaseJson (baseDir : String) : DatabaseSettings → Json
  | .file =>
    .obj [("ENGINE", .str "django.db.backends.sqlite3"), ("NAME", .str (baseDir ++ "/db.sqlite3"))]
  | .server name user password host port schema =>
    .obj [("ENGINE", .str "django.db.backends.postgresql"), ("NAME", .str name),
      ("USER", .str user), ("PASSWORD", .str password), ("HOST", .str host), ("PORT", .str port),
      ("OPTIONS", .obj [("options", .str ("-c search_path=" ++ schema))])]

/-- All settings with their names; some are the same everywhere. -/
def toJson (baseDir : String) (settings : ServiceSettings) : Json :=
  .obj [
    ("SECRET_KEY", .str settings.secretKey),
    ("DEBUG", .bool settings.debug),
    ("ALLOWED_HOSTS", .arr []),
    ("INSTALLED_APPS", .arr [.str "push_config"]),
    ("MIDDLEWARE", .arr []),
    ("DATABASES", .obj [("default", databaseJson baseDir settings.database)]),
    ("DEFAULT_AUTO_FIELD", .str "django.db.models.BigAutoField"),
    ("LANGUAGE_CODE", .str "en-us"),
    ("TIME_ZONE", .str "UTC"),
    ("USE_I18N", .bool false),
    ("USE_TZ", .bool true),
    ("PUSH_NOTIFICATION_CONFIG_STORE", .str settings.store),
    ("A2A_CONFIG", .obj settings.properties),
    ("STRUCTURED_LOGGING", .bool settings.structuredLogging)]

end ServiceSettings

end WebhookRegistry
