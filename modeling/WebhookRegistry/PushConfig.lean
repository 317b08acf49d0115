/-
  Push notification configs and the requests and answers about them.

  A client registers, for a task, a webhook that is told about the task's progress: its address, an id,
  a token that is echoed back and how to authenticate. `ListRequest` asks for one page of the configs of a
  task and `ConfigPage` is the answer, with the token of the next page unless it is the last.
-/
import WebhookRegistry.Schema.Described

namespace WebhookRegistry

open Schema

/-! ## How to authenticate -/

/-- The schemes that a webhook accepts, with credentials for them. -/
structure AuthenticationInfo where
  schemes : List String
  credentials : Option String
  deriving DecidableEq, Repr, Inhabited

/-- The fields of an authentication. -/
def AuthenticationInfo.fields : Fields :=
  .cons "schemes" (.list (.text 0)) (some (.arr [])) <|
  .cons "credentials" (.nullable (.text 0)) (some .null) .nil

instance : Described AuthenticationInfo where
  title := "PushNotificationAuthenticationInfo"
  fields := AuthenticationInfo.fields
  ofTuple x := ⟨x.1, x.2.1⟩
  toTuple a := (a.schemes, a.credentials, ())

/-! ## Configs -/

/-- A webhook that receives the updates of a task. -/
structure PushConfig where
  url : String
  id : Option String
  token : Option String
  authentication : Option AuthenticationInfo
  deriving DecidableEq, Repr, Inhabited

/-- The fields of a config. -/
def PushConfig.fields : Fields :=
  .cons "url" (.text 0) none <|
  .cons "id" (.nullable (.text 0)) (some .null) <|
  .cons "token" (.nullable (.text 0)) (some .null) <|
  .cons "authentication" (.nullable (.record AuthenticationInfo.fields)) (some .null) .nil

instance : Described PushConfig where
  title := "PushNotificationConfig"
  fields := PushConfig.fields
  ofTuple x := ⟨x.1, x.2.1, x.2.2.1, x.2.2.2.1.map Described.ofTuple⟩
  toTuple c := (c.url, c.id, c.token, c.authentication.map Described.toTuple, ())

/-- A config as it is listed for a task and a tenant. -/
structure TaskPushConfig where
  taskId : String
  config : PushConfig
  tenant : String
  deriving DecidableEq, Repr, Inhabited

/-- The fields of a listed config. -/
def TaskPushConfig.fields : Fields :=
  .cons "task_id" (.text 0) none <|
  .cons "push_notification_config" (.record PushConfig.fields) none <|
  .cons "tenant" (.text 0) (some (.str "")) .nil

instance : Described TaskPushConfig where
  title := "TaskPushNotificationConfig"
  fields := TaskPushConfig.fields
  ofTuple x := ⟨x.1, Described.ofTuple x.2.1, x.2.2.1⟩
  toTuple c := (c.taskId, Described.toTuple c.config, c.tenant, ())

/-! ## Listing -/

/-- Asks for one page of the configs of a task; no token, or an empty one, asks for the first page. -/
structure ListRequest where
  id : String
  pageSize : Int
  pageToken : Option String
  tenant : String
  deriving DecidableEq, Repr, Inhabited

/-- The fields of a request; the task id must not be empty. -/
def ListRequest.fields : Fields :=
  .cons "id" (.text 1) none <|
  .cons "page_size" .integer (some (.int 0)) <|
  .cons "page_token" (.nullable (.text 0)) (some (.str "")) <|
  .cons "tenant" (.text 0) (some (.str "")) .nil

instance : Described ListRequest where
  title := "ListTaskPushNotificationConfigParams"
  fields := ListRequest.fields
  ofTuple x := ⟨x.1, x.2.1, x.2.2.1, x.2.2.2.1⟩
  toTuple r := (r.id, r.pageSize, r.pageToken, r.tenant, ())

/-- The page size to use: the requested one if it is positive and within the maximum. -/
def ListRequest.effectivePageSize (request : ListRequest) (maximum : Int) : Int :=
  if request.pageSize ≤ 0 ∨ maximum < request.pageSize then maximum else request.pageSize

/-- One page of configs, newest first. -/
structure ConfigPage where
  configs : List TaskPushConfig
  nextPageToken : Option String
  deriving DecidableEq, Repr, Inhabited

/-- The fields of a page. -/
def ConfigPage.fields : Fields :=
  .cons "configs" (.list (.record TaskPushConfig.fields)) (some (.arr [])) <|
  .cons "next_page_token" (.nullable (.text 0)) (some .null) .nil

instance : Described ConfigPage where
  title := "ListTaskPushNotificationConfigResult"
  fields := ConfigPage.fields
  ofTuple x := ⟨List.map (fun c => (Described.ofTuple c : TaskPushConfig)) x.1, x.2.1⟩
  toTuple p := (p.configs.map Described.toTuple, p.nextPageToken, ())

/-- **The effective page size stays within the maximum** when there is a positive one. -/
theorem ListRequest.effectivePageSize_mem {maximum : Int} (request : ListRequest)
    (h : 1 ≤ maximum) :
    1 ≤ request.effectivePageSize maximum ∧ request.effectivePageSize maximum ≤ maximum := by
  unfold effectivePageSize
  split <;> omega

end WebhookRegistry
