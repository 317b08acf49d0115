/-
  A listing of the database logs in agreement with its outcome.

  Its log begins with what is asked for, and what follows tells how the call ended. There are four ways:

  1. The request was malformed: a warning with the message of the error.
  2. A payload on the page cannot be read: an error for the first such config, which is the one that the
     failure names, and an error for the listing.
  3. Another failure: an error for the listing alone.
  4. A page is shown: its number of configs, at no level that anybody has to look at.

  An answer is told by what it reports and by the records of the page (`RecordStore.pageRecords`), so the
  ways are told apart without a look at the log. `Database.list_eq` has brought the log into one
  equation; each way is a case of it.
-/
import WebhookRegistry.Proofs.Store.UnreadablePayloads

namespace WebhookRegistry

open RecordStore

/-! ## What is seen of an event -/

/-- A line of the log. -/
structure LogLine where
  name : String
  level : Level
  fields : List (String × Json)
  hasFailure : Bool
  deriving Repr

/-- An event as a line of the log. -/
def Event.line [Wording] (event : Event) : LogLine :=
  ⟨event.name, event.level, event.fields, event.hasFailure⟩

namespace LogLine

/-- What a request asks for. -/
def retrieving (request : ListRequest) : LogLine :=
  ⟨"push_configs_retrieving", .debug,
    [("task_id", .str request.id), ("page_size", .int request.pageSize),
      ("page_token", Json.ofText? request.pageToken)], false⟩

/-- A malformed request. -/
def invalidParams (taskId message : String) : LogLine :=
  ⟨"push_configs_invalid_params", .warning, [("task_id", .str taskId), ("error", .str message)], false⟩

/-- A payload that cannot be read. -/
def deserializationFailed (taskId configId message : String) : LogLine :=
  ⟨"push_config_deserialization_failed", .error,
    [("task_id", .str taskId), ("config_id", .str configId), ("error", .str message)], false⟩

/-- A listing that failed, with the failure. -/
def retrievalFailed (taskId : String) : LogLine :=
  ⟨"push_configs_retrieval_failed", .error, [("task_id", .str taskId)], true⟩

/-- A page that is shown. -/
def retrieved (taskId : String) (count : Nat) : LogLine :=
  ⟨"push_configs_retrieved", .debug, [("task_id", .str taskId), ("count", .int count)], false⟩

end LogLine

/-! ## Failures -/

namespace Failure

variable {failure : Failure}

theorem events_of_invalidParams {message : String}
    (h : failure.report = some (.invalidParams message)) (taskId : String) :
    failure.events taskId = [.invalidParams taskId message] := by
  cases failure with
  | token fault => cases fault <;> cases h <;> rfl
  | _ => cases h

theorem events_of_other (hreport : ∀ message, failure.report ≠ some (.invalidParams message))
    (hread : ∀ key invalid, failure ≠ .unreadable key invalid) (taskId : String) :
    failure.events taskId = [.retrievalFailed taskId] := by
  cases failure with
  | token fault =>
    cases fault with
    | tooManyDigits => rfl
    | _ => exact absurd rfl (hreport _)
  | limit fault => rfl
  | unwritable key => rfl
  | unreadable key invalid => exact absurd rfl (hread key invalid)

end Failure

namespace Database

variable {request : ListRequest} {db : Database}

/-- Only a payload on the page can be what cannot be read. -/
theorem ne_unreadable {failure : Failure} (h : (ConfigStore.list request db).answer = .error failure)
    (hread : ∀ records next, pageRecords request db = .ok (records, next) →
      ∀ record ∈ records, record.Readable) (key : ConfigKey) (invalid : Schema.Invalid) :
    failure ≠ .unreadable key invalid := by
  rw [LawfulStore.answer_list] at h
  cases hpage : pageRecords request db with
  | error refusal =>
    -- The page was not found, so the token or the size was refused.
    have hrows : (db.pageRows request).map _ = .error refusal := hpage
    rw [hpage] at h
    cases h
    cases hfound : db.pageRows request with
    | error refusal' =>
      rw [hfound] at hrows
      cases hrows
      rcases pageRows_eq_error hfound with ⟨fault, rfl⟩ | ⟨fault, rfl⟩ <;> exact nofun
    | ok found =>
      rw [hfound] at hrows
      cases hrows
  | ok found =>
    obtain ⟨records, next⟩ := found
    obtain ⟨configs, hconfigs⟩ := Record.exists_configs (hread records next hpage)
    have hall : Record.readAll request.id records = .ok configs := Record.readAll_eq_ok_iff.2 hconfigs
    rw [hpage] at h
    have hshown : (Record.readAll request.id records).map _ = .error failure := h
    rw [hall] at hshown
    cases hshown

variable [Wording]

/-- The log of a listing. -/
def listingLog (request : ListRequest) (db : Database) : List LogLine :=
  (ConfigStore.list request db).events.map Event.line

theorem listingLog_of_error {failure : Failure}
    (h : (ConfigStore.list request db).answer = .error failure) :
    listingLog request db = .retrieving request :: (failure.events request.id).map Event.line := by
  have hpage : db.readPage request = .error failure := by
    rw [← h]
    show _ = (db.list request).answer
    rw [list_eq]
  unfold listingLog
  show (db.list request).events.map Event.line = _
  rw [list_eq, hpage]
  rfl

theorem listingLog_of_ok {page : ConfigPage} (h : (ConfigStore.list request db).answer = .ok page) :
    listingLog request db = [.retrieving request, .retrieved request.id page.configs.length] := by
  have hpage : db.readPage request = .ok page := by
    rw [← h]
    show _ = (db.list request).answer
    rw [list_eq]
  unfold listingLog
  show (db.list request).events.map Event.line = _
  rw [list_eq, hpage]
  rfl

/-- **The first unreadable payload of a page is the failure**, and the log names it. -/
theorem listing_of_firstUnreadable {records : List (Record String)} {next : Option String}
    (hpage : pageRecords request db = .ok (records, next)) {record : Record String}
    {invalid : Schema.Invalid} (hfirst : FirstUnreadable records record invalid) :
    (ConfigStore.list request db).answer = .error (.unreadable ⟨request.id, record.1⟩ invalid) ∧
      listingLog request db =
        [.retrieving request,
          .deserializationFailed request.id record.1 (PayloadFault.unreadable invalid).error.message,
          .retrievalFailed request.id] := by
  have hanswer : (ConfigStore.list request db).answer =
      .error (.unreadable ⟨request.id, record.1⟩ invalid) := by
    rw [LawfulStore.answer_list, hpage]
    show (Record.readAll request.id records).map _ = _
    rw [Record.readAll_of_firstUnreadable request.id hfirst]
    rfl
  exact ⟨hanswer, listingLog_of_error hanswer⟩

end Database

variable [Wording]

/-- Whether the log of a listing agrees with its outcome. -/
structure LogsItsOutcome (request : ListRequest) (db : Database) : Prop where
  /-- The error of a malformed request is all that is logged, as a warning. -/
  malformed : ∀ failure message, (ConfigStore.list request db).answer = .error failure →
    failure.report = some (.invalidParams message) →
      db.listingLog request = [.retrieving request, .invalidParams request.id message] ∧
        ∀ line ∈ db.listingLog request, line.level.number < Level.error.number
  /-- An unreadable payload on the page is logged for the config that the error carries. -/
  unreadable : ∀ records next, pageRecords request db = .ok (records, next) →
    (∃ record ∈ records, ¬ record.Readable) → ∃ record invalid failure message,
      FirstUnreadable records record invalid ∧
        (ConfigStore.list request db).answer = .error failure ∧
        failure.report = some (.store message request.id (some record.1)) ∧
        db.listingLog request =
          [.retrieving request,
            .deserializationFailed request.id record.1 (PayloadFault.unreadable invalid).error.message,
            .retrievalFailed request.id]
  /-- Any other failure is logged once. -/
  other : ∀ failure, (ConfigStore.list request db).answer = .error failure →
    (∀ message, failure.report ≠ some (.invalidParams message)) →
      (∀ records next, pageRecords request db = .ok (records, next) →
        ∀ record ∈ records, record.Readable) →
        db.listingLog request = [.retrieving request, .retrievalFailed request.id]
  /-- A page is logged with its number of configs, and nothing is amiss. -/
  shown : ∀ page, (ConfigStore.list request db).answer = .ok page →
    db.listingLog request = [.retrieving request, .retrieved request.id page.configs.length] ∧
      ∀ line ∈ db.listingLog request, line.level.number < Level.warning.number

/-- **A listing of the database logs in agreement with its outcome**, whatever texts its table holds and
    whatever it is asked for. -/
theorem listing_logs_its_outcome (request : ListRequest) (db : Database) : LogsItsOutcome request db := by
  refine ⟨?_, ?_, ?_, ?_⟩
  · intro failure message hanswer hreport
    have hlog := Database.listingLog_of_error hanswer
    rw [Failure.events_of_invalidParams hreport] at hlog
    rw [hlog]
    exact ⟨rfl, List.forall_mem_cons.2 ⟨show Level.debug.number < _ by decide,
      List.forall_mem_singleton.2 (show Level.warning.number < _ by decide)⟩⟩
  · rintro records next hpage ⟨unread, hunread, hnot⟩
    rcases exists_firstUnreadable_or_forall records with hall | ⟨record, invalid, hfirst⟩
    · exact absurd (hall unread hunread) hnot
    · obtain ⟨hanswer, hlog⟩ := Database.listing_of_firstUnreadable hpage hfirst
      exact ⟨record, invalid, _, _, hfirst, hanswer, Failure.report_unreadable request.id record.1 invalid,
        hlog⟩
  · intro failure hanswer hreport hread
    rw [Database.listingLog_of_error hanswer,
      Failure.events_of_other hreport (Database.ne_unreadable hanswer hread)]
    rfl
  · intro page hanswer
    have hlog := Database.listingLog_of_ok hanswer
    rw [hlog]
    exact ⟨rfl, List.forall_mem_cons.2 ⟨show Level.debug.number < _ by decide,
      List.forall_mem_singleton.2 (show Level.debug.number < _ by decide)⟩⟩

end WebhookRegistry
