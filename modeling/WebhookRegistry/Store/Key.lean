/-
  What identifies a stored config.

  A config is stored under the id of its task and an id of its own. Where the own id is missing or
  empty, the id of the task takes its place, so a task with a single config is addressed by its own id.
-/
import WebhookRegistry.PushConfig
import WebhookRegistry.Time.Calendar

namespace WebhookRegistry

/-- The key of a stored config. -/
structure ConfigKey where
  taskId : String
  configId : String
  deriving DecidableEq, Repr, Inhabited

/-- The id of a config in its task: the given one, or that of the task if none or an empty one is given. -/
def resolveConfigId (taskId : String) (configId : Option String) : String :=
  match configId with
  | none => taskId
  | some id => if id.isEmpty then taskId else id

namespace ConfigKey

/-- The key that a caller addresses. -/
def resolve (taskId : String) (configId : Option String) : ConfigKey :=
  ⟨taskId, resolveConfigId taskId configId⟩

/-- One line that names a config and its task. -/
def summary (key : ConfigKey) : String :=
  "push config " ++ key.configId ++ " for task " ++ key.taskId

/-- The key and the creation time of a stored config, for inspection. -/
def detail (key : ConfigKey) (createdAt : Option Instant) : String :=
  "<PushNotificationConfigRecord(task_id=" ++ key.taskId ++ ", config_id=" ++ key.configId ++
    ", created_at=" ++ (createdAt.map Instant.spaced).getD "None" ++ ")>"

end ConfigKey

/-- The config with its id filled in: an id that is missing or empty becomes that of the task. -/
def PushConfig.withDefaultId (taskId : String) (config : PushConfig) : PushConfig :=
  { config with id := some (resolveConfigId taskId config.id) }

/-- **A config that has an id keeps it**, and with it everything else. -/
theorem PushConfig.withDefaultId_of_id {taskId id : String} {config : PushConfig}
    (h : config.id = some id) (hne : id.isEmpty = false) : config.withDefaultId taskId = config := by
  cases config
  simp_all [withDefaultId, resolveConfigId]

/-- A caller addresses a key by its task and, after the default, by its id. -/
theorem ConfigKey.resolve_eq_iff {taskId : String} {configId : Option String} {key : ConfigKey} :
    ConfigKey.resolve taskId configId = key ↔
      taskId = key.taskId ∧ resolveConfigId taskId configId = key.configId := by
  cases key
  exact ConfigKey.mk.injEq .. ▸ Iff.rfl

/-- **Filling in the id does not change which key is addressed.** -/
theorem ConfigKey.resolve_withDefaultId (taskId : String) (config : PushConfig) :
    ConfigKey.resolve taskId (config.withDefaultId taskId).id = ConfigKey.resolve taskId config.id := by
  have hid : resolveConfigId taskId (some (resolveConfigId taskId config.id)) =
      resolveConfigId taskId config.id := by
    show (if (resolveConfigId taskId config.id).isEmpty then taskId else _) = _
    by_cases hempty : (resolveConfigId taskId config.id).isEmpty = true
    · rw [if_pos hempty]
      unfold resolveConfigId at hempty ⊢
      grind
    · rw [if_neg hempty]
  exact congrArg (ConfigKey.mk taskId) hid

end WebhookRegistry
