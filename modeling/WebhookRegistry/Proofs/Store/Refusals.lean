/-
  Which requests are refused, and how.

  A healthy store can read all its records, so a page is refused for its token or for its size, and for
  nothing else (`ListsBy.answer_list_eq_error_iff`). Such a refusal tells the client that its request was
  malformed, with two exceptions that have no error of the service: a token whose number has more digits
  than are read, and a page size beyond the limit of a query. `isAnswered_list_iff` says so of every
  store that lists; the collections in memory take every size.
-/
import WebhookRegistry.Proofs.Store.AnyTimes

namespace WebhookRegistry

open RecordStore

/-- Whether a call gives an answer, or fails and tells the client that its request was malformed. -/
def AnsweredOrMalformed {α : Type} (answer : Except Failure α) : Prop :=
  ∀ failure, answer = .error failure → ∃ message, failure.report = some (.invalidParams message)

/-- A token is refused as malformed unless its number is too long. -/
theorem Failure.report_token_iff {fault : PageToken.Fault} :
    (∃ message, (Failure.token fault).report = some (.invalidParams message)) ↔
      fault ≠ .tooManyDigits := by
  cases fault <;> simp [Failure.report]

/-- **Reading a token fails as it should** unless the token is overlong. -/
theorem answeredOrMalformed_decode_iff {token : Option String} :
    AnsweredOrMalformed ((PageToken.decode token).mapError Failure.token) ↔
      ¬ PageToken.Overlong token := by
  rw [← PageToken.decode_eq_tooManyDigits_iff]
  unfold AnsweredOrMalformed
  cases hread : PageToken.decode token with
  | ok cursor =>
    constructor
    · intro _ hlong
      cases hlong
    · intro _ failure hfailure
      cases hfailure
  | error fault =>
    constructor
    · intro h hlong
      cases hlong
      exact Failure.report_token_iff.1 (h _ rfl) rfl
    · intro hlong failure hfailure
      cases hfailure
      exact Failure.report_token_iff.2 fun heq => hlong (congrArg _ heq)

section

variable {σ π : Type} [Payload π] [ConfigStore σ] [RecordStore σ π] [LawfulStore σ π]
variable {resolution : Resolution} {store : σ} {request : ListRequest}

/-- **A request is answered or refused as malformed** exactly if its token is not overlong and, where the
    token can be read, the store makes pages of its size. -/
theorem ListsBy.answeredOrMalformed_list_iff (h : ListsBy resolution store) :
    AnsweredOrMalformed (ConfigStore.list request store).answer ↔
      ¬ PageToken.Overlong request.pageToken ∧
        (Takes request store ∨ ∃ fault, PageToken.decode request.pageToken = .error fault) := by
  rw [← PageToken.decode_eq_tooManyDigits_iff]
  constructor
  · intro hanswered
    refine ⟨fun hlong => ?_, ?_⟩
    · have hfailure := h.answer_list_eq_error_iff.2 (Or.inl ⟨_, hlong, rfl⟩)
      exact Failure.report_token_iff.1 (hanswered _ hfailure) rfl
    · cases hcursor : PageToken.decode request.pageToken with
      | error fault => exact Or.inr ⟨fault, rfl⟩
      | ok cursor =>
        refine Or.inl (Classical.byContradiction fun hnot => ?_)
        obtain ⟨fault, hfault⟩ := Option.ne_none_iff_exists'.1 hnot
        -- The failure of a limit has no error of the service.
        have hfailure := h.answer_list_eq_error_iff.2 (Or.inr ⟨cursor, fault, hcursor, hfault, rfl⟩)
        obtain ⟨message, hreport⟩ := hanswered _ hfailure
        cases hreport
  · rintro ⟨hlong, hsize⟩ failure hfailure
    rcases h.answer_list_eq_error_iff.1 hfailure with
      ⟨fault, hfault, rfl⟩ | ⟨cursor, fault, hcursor, hlimit, -⟩
    · exact Failure.report_token_iff.2 fun heq => hlong (heq ▸ hfault)
    · rcases hsize with htakes | ⟨f, hf⟩
      · rw [show limitFault? store _ = none from htakes] at hlimit
        cases hlimit
      · rw [hf] at hcursor
        cases hcursor

end

/-! ## Both stores -/

/-- **Malformed requests are the client's errors, but for overlong tokens**: reading a token and listing
    from the collections fail otherwise only with an error that says so, and so does listing from the
    database if it takes the limit of a query for one page. -/
theorem answered_unless_overlong (db : Database) (memory : Memory) (request : ListRequest)
    (hdb : Healthy db) (hmemory : Healthy memory) :
    (AnsweredOrMalformed ((PageToken.decode request.pageToken).mapError Failure.token) ↔
      ¬ PageToken.Overlong request.pageToken) ∧
    (AnsweredOrMalformed (ConfigStore.list request memory).answer ↔
      ¬ PageToken.Overlong request.pageToken) ∧
    (AnsweredOrMalformed (ConfigStore.list request db).answer ↔
      ¬ PageToken.Overlong request.pageToken ∧
        (request.effectivePageSize db.maxPageSize + 1 ≤ Keyset.maxLimit ∨
          ∃ fault, PageToken.decode request.pageToken = .error fault)) := by
  refine ⟨answeredOrMalformed_decode_iff, ?_, ?_⟩
  · rw [(Memory.listsBy hmemory).answeredOrMalformed_list_iff]
    exact and_iff_left (Or.inl (Memory.takes request memory))
  · rw [(Database.listsBy hdb).answeredOrMalformed_list_iff, Database.takes_iff hdb.one_le_maxPageSize]

/-- A token without a colon is the client's error. -/
theorem answered_without_colon :
    let config : PushConfig := ⟨"https://example.org", none, none, none⟩
    let db : Database := ⟨2, [(⟨"t", "a"⟩, ⟨none, Schema.writeText config⟩)]⟩
    let memory : Memory := ⟨2, [("t", [("a", ⟨none, config⟩)])]⟩
    let request : ListRequest := ⟨"t", 1, some "x", ""⟩
    Healthy db ∧ Healthy memory ∧ PageToken.decode request.pageToken = .error .noSeparator ∧
      AnsweredOrMalformed ((PageToken.decode request.pageToken).mapError Failure.token) ∧
      AnsweredOrMalformed (ConfigStore.list request memory).answer ∧
      AnsweredOrMalformed (ConfigStore.list request db).answer := by
  intro config db memory request
  have hdb : Healthy db := by
    refine Database.healthy_of_rows (by decide) (by decide) fun row hrow => ⟨config, ?_⟩
    rw [List.mem_singleton.1 hrow]
    exact PushConfig.readText_writeText config
  have hmemory : Healthy memory := Memory.healthy_of_unique (by decide) (by decide)
  have hdecode : PageToken.decode request.pageToken = .error .noSeparator := rfl
  have hlong : ¬ PageToken.Overlong request.pageToken := by
    rw [← PageToken.decode_eq_tooManyDigits_iff, hdecode]
    intro h
    cases h
  obtain ⟨htoken, hcollections, htable⟩ := answered_unless_overlong db memory request hdb hmemory
  exact ⟨hdb, hmemory, hdecode, htoken.2 hlong, hcollections.2 hlong,
    htable.2 ⟨hlong, Or.inr ⟨_, hdecode⟩⟩⟩

/-- **An overlong token is no client error**: 4301 ones in front of the colon fail without an error of
    the service, in the token itself and in both stores. -/
theorem overlong_token_not_malformed :
    let token : Option String := some (String.ofList (List.replicate 4301 '1' ++ ':' :: ['x']))
    let request : ListRequest := ⟨"t", 0, token, ""⟩
    ¬ AnsweredOrMalformed ((PageToken.decode token).mapError Failure.token) ∧
      ¬ AnsweredOrMalformed (ConfigStore.list request (ConfigStore.empty 1 : Database)).answer ∧
      ¬ AnsweredOrMalformed (ConfigStore.list request (ConfigStore.empty 1 : Memory)).answer := by
  intro token request
  have hlong : PageToken.Overlong token := by
    refine ⟨[], List.replicate 4301 '1', ['x'], ?_, Or.inl rfl, fun c hc => ?_, ?_⟩
    · rw [List.nil_append]
    · rw [List.eq_of_mem_replicate hc]
      decide
    · rw [List.length_replicate]
      decide
  have hdb := Database.listsBy (healthy_empty (σ := Database) (Int.le_refl 1))
  have hmemory := Memory.listsBy (healthy_empty (σ := Memory) (Int.le_refl 1))
  refine ⟨fun h => ?_, fun h => ?_, fun h => ?_⟩
  · exact answeredOrMalformed_decode_iff.1 h hlong
  · exact (hdb.answeredOrMalformed_list_iff.1 h).1 hlong
  · exact (hmemory.answeredOrMalformed_list_iff.1 h).1 hlong

end WebhookRegistry
