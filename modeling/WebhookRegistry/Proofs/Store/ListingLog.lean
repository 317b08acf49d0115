/-
  A listing apart from its log.

  A listing logs while it reads, and once more when it fails, so its answer and its events come out of one
  call. The two are told apart here:

  1. **The answer** is that of reading the page without a log (`readConfigs`, `readPage`).

  2. **The events** after the first one follow from the answer (`listEvents`): the rows that were read
     before an unreadable one leave nothing in the log, and every failure is logged once more on its way
     out.

  `list_eq` has both.
-/
import WebhookRegistry.Store.Database

namespace WebhookRegistry

/-- What is logged when listing a task's configs fails. -/
def Failure.events (taskId : String) : Failure → List Event
  | .token .tooManyDigits => [.retrievalFailed taskId]
  | .token fault => [.invalidParams taskId fault.message]
  | .limit _ => [.retrievalFailed taskId]
  | .unwritable _ => [.retrievalFailed taskId]
  | .unreadable key invalid => [.deserializationFailed key invalid, .retrievalFailed taskId]

/-- What is logged where a failure arises: the row that cannot be read. -/
def Failure.firstEvents : Failure → List Event
  | .unreadable key invalid => [.deserializationFailed key invalid]
  | _ => []

namespace Database

/-! ## The answer -/

/-- Reads the payloads of rows in order, up to the first that is unreadable. -/
def readConfigs : List Row → Except Failure (List PushConfig)
  | [] => .ok []
  | row :: rest =>
    match row.config with
    | .error invalid => .error (.unreadable row.1 invalid)
    | .ok config =>
      match readConfigs rest with
      | .error failure => .error failure
      | .ok configs => .ok (config :: configs)

/-- One page of the configs of a task. -/
def readPage (request : ListRequest) (db : Database) : Except Failure ConfigPage :=
  match db.pageRows request with
  | .error failure => .error failure
  | .ok (rows, next) =>
    match readConfigs rows with
    | .error failure => .error failure
    | .ok configs => .ok (ConfigPage.of request configs next)

/-! ## The events -/

/-- What listing logs after its first event. -/
def listEvents (taskId : String) : Except Failure ConfigPage → List Event
  | .ok page => [.retrieved taskId page.configs.length]
  | .error failure => failure.events taskId

/-- **Reading rows logs the row that stops it**, and no row before it. -/
theorem loadConfigs_eq (rows : List Row) :
    loadConfigs rows =
      ⟨readConfigs rows,
        match readConfigs rows with
        | .error failure => failure.firstEvents
        | .ok _ => []⟩ := by
  induction rows with
  | nil => rfl
  | cons row rest ih =>
    rw [loadConfigs, readConfigs]
    cases hconfig : row.config with
    | error invalid =>
      have hrow : loadConfig row =
          ⟨.error (.unreadable row.1 invalid), [.deserializationFailed row.1 invalid]⟩ := by
        unfold loadConfig
        rw [hconfig]
        rfl
      rw [hrow]
      rfl
    | ok config =>
      have hrow : loadConfig row = pure config := by
        unfold loadConfig
        rw [hconfig]
      rw [hrow, ih]
      cases readConfigs rest with
      | error failure => rfl
      | ok configs => rfl

/-- Nothing is logged before rows are found. -/
theorem firstEvents_of_pageRows {request : ListRequest} {db : Database} {failure : Failure}
    (h : db.pageRows request = .error failure) : failure.firstEvents = [] := by
  unfold pageRows at h
  split at h
  · cases h
    rfl
  · dsimp only at h
    split at h
    · cases h
      rfl
    · cases h

/-- **Loading a page logs how many configs it shows**, or what stops it. -/
theorem loadPage_eq (request : ListRequest) (db : Database) :
    db.loadPage request =
      ⟨db.readPage request,
        match db.readPage request with
        | .error failure => failure.firstEvents
        | .ok page => [.retrieved request.id page.configs.length]⟩ := by
  unfold loadPage readPage
  cases hrows : db.pageRows request with
  | error failure =>
    show (⟨.error failure, []⟩ : Logged ConfigPage) = ⟨.error failure, failure.firstEvents⟩
    rw [firstEvents_of_pageRows hrows]
  | ok found =>
    obtain ⟨rows, next⟩ := found
    show (loadConfigs rows >>= fun configs =>
      Logged.log (.retrieved request.id configs.length) >>= fun _ =>
        pure (ConfigPage.of request configs next)) = _
    rw [loadConfigs_eq]
    dsimp only
    cases readConfigs rows with
    | error failure => rfl
    | ok configs =>
      -- The count is taken before the page is put together.
      have hlength : (ConfigPage.of request configs next).configs.length = configs.length :=
        List.length_map _
      show (⟨.ok (ConfigPage.of request configs next), [.retrieved request.id configs.length]⟩ :
        Logged ConfigPage) =
          ⟨.ok _, [.retrieved request.id (ConfigPage.of request configs next).configs.length]⟩
      rw [hlength]

/-- A failed listing is logged and fails as it did. -/
theorem failAgain_eq (taskId : String) (failure : Failure) :
    failAgain taskId failure =
      ⟨.error failure,
        match failure.report with
        | some (.invalidParams message) => [.invalidParams taskId message]
        | _ => [.retrievalFailed taskId]⟩ := by
  unfold failAgain
  cases failure.report with
  | none => rfl
  | some error => cases error <;> rfl

/-- **A listing answers as its page is read**, and its events follow from the answer. -/
theorem list_eq (request : ListRequest) (db : Database) :
    db.list request =
      ⟨db.readPage request, db,
        .retrieving request.id request.pageSize request.pageToken ::
          listEvents request.id (db.readPage request)⟩ := by
  unfold list
  rw [loadPage_eq]
  cases db.readPage request with
  | ok page => rfl
  | error failure =>
    show (⟨(failAgain request.id failure).answer, db,
      _ :: (failure.firstEvents ++ (failAgain request.id failure).events)⟩ :
        Outcome Database ConfigPage) = _
    rw [failAgain_eq]
    cases failure with
    | token fault => cases fault <;> rfl
    | limit fault => rfl
    | unwritable key => rfl
    | unreadable key invalid => rfl

end Database

end WebhookRegistry
