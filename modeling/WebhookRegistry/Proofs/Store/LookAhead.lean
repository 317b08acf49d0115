/-
  The row that the database asks for beyond a page.

  The database asks for one row more than a page holds, with a limit of 64 bits on its queries. The
  maximum page size and the page size of a request are integers of any length.

  1. **How many rows are asked for** (`ListRequest.lookAhead`): at least two, and at most one more than
     the maximum. They are within the limit if the maximum is below it, or if the request asks for a page
     below it (`lookAhead_le_maxLimit_iff`).

  2. **Which listings fail for their size** (`Database.failsForSize_iff`): those from the database whose
     token can be read and that ask for too many rows. The collections have no limit.

  3. **Which maximum is too large** (`MaxPageSize.maxLimit_le_iff`): the limit itself is, and a maximum
     that large is taken from its property like any other.

  So no listing fails for its size exactly if the property gives no number from the limit on
  (`LooksAhead`).
-/
import WebhookRegistry.Proofs.Settings.MaxPageSize
import WebhookRegistry.Proofs.Store.Database
import WebhookRegistry.Proofs.Store.Memory

namespace WebhookRegistry

open RecordStore

/-! ## How many rows are asked for -/

/-- The number of rows that the database asks for: the page and one row more. -/
def ListRequest.lookAhead (request : ListRequest) (maximum : Int) : Int :=
  request.effectivePageSize maximum + 1

theorem ListRequest.lookAhead_mem {maximum : Int} (request : ListRequest) (h : 1 ≤ maximum) :
    2 ≤ request.lookAhead maximum ∧ request.lookAhead maximum ≤ maximum + 1 := by
  have hsize := request.effectivePageSize_mem h
  unfold lookAhead
  omega

/-- **The rows are within the limit** if the maximum is below it, or else the page asked for. -/
theorem ListRequest.lookAhead_le_maxLimit_iff {maximum : Int} (request : ListRequest) :
    request.lookAhead maximum ≤ Keyset.maxLimit ↔
      maximum < Keyset.maxLimit ∨ 1 ≤ request.pageSize ∧ request.pageSize < Keyset.maxLimit := by
  unfold lookAhead effectivePageSize
  split <;> omega

/-- This is the limit of the query of a page. -/
theorem Database.pageRows_of_decode {request : ListRequest} {cursor : Option Cursor}
    (hcursor : PageToken.decode request.pageToken = .ok cursor) (db : Database) :
    db.pageRows request =
      match db.table.page request.id cursor (request.lookAhead db.maxPageSize) with
      | .error fault => .error (.limit fault)
      | .ok rows =>
        .ok (Keyset.cut Row.position (request.effectivePageSize db.maxPageSize).toNat rows) := by
  unfold pageRows
  rw [hcursor]
  rfl

/-! ## Failures for a size -/

/-- Whether a listing fails for the size of its page and nothing else. -/
def FailsForSize (answer : Except Failure ConfigPage) : Prop :=
  ∃ fault, answer = .error (.limit fault)

section

variable {σ π : Type} [Payload π] [ConfigStore σ] [RecordStore σ π] [LawfulStore σ π]

/-- Reading records does not fail for a size. -/
theorem Record.readAll_ne_limit (taskId : String) (records : List (Record π))
    (fault : Keyset.LimitFault) : Record.readAll taskId records ≠ .error (.limit fault) := by
  intro hfault
  induction records with
  | nil => cases hfault
  | cons record rest ih =>
    rw [readAll] at hfault
    cases hread : record.config with
    | error invalid =>
      rw [hread] at hfault
      cases hfault
    | ok config =>
      rw [hread] at hfault
      dsimp only at hfault
      cases hrest : readAll taskId rest with
      | ok configs =>
        rw [hrest] at hfault
        cases hfault
      | error failure =>
        rw [hrest] at hfault
        cases hfault
        exact ih hrest

/-- **A listing fails for its size where its page does.** -/
theorem failsForSize_list_iff {request : ListRequest} {store : σ} :
    FailsForSize (ConfigStore.list request store).answer ↔
      ∃ fault, pageRecords request store = .error (.limit fault) := by
  rw [LawfulStore.answer_list]
  cases hpage : pageRecords request store with
  | error failure => simp [FailsForSize, shown]
  | ok page =>
    obtain ⟨records, next⟩ := page
    refine iff_of_false ?_ nofun
    rintro ⟨fault, hfault⟩
    cases hread : Record.readAll request.id records with
    | ok configs =>
      rw [shown, hread] at hfault
      cases hfault
    | error failure =>
      rw [shown, hread] at hfault
      cases hfault
      exact Record.readAll_ne_limit _ _ _ hread

end

/-- **The database fails for a size** exactly if the token can be read and too many rows are asked for,
    whatever the table holds. -/
theorem Database.failsForSize_iff {db : Database} (h : 1 ≤ db.maxPageSize) {request : ListRequest} :
    FailsForSize (ConfigStore.list request db).answer ↔
      (∃ cursor, PageToken.decode request.pageToken = .ok cursor) ∧
        Keyset.maxLimit < request.lookAhead db.maxPageSize := by
  -- A page of records is one of rows, and both fail alike.
  have hpage : FailsForSize (ConfigStore.list request db).answer ↔
      ∃ fault, db.pageRows request = .error (.limit fault) := by
    rw [failsForSize_list_iff]
    show (∃ fault, (db.pageRows request).map _ = _) ↔ _
    cases db.pageRows request <;> simp [Except.map]
  rw [hpage]
  cases hcursor : PageToken.decode request.pageToken with
  | error fault =>
    constructor
    · rintro ⟨limit, hlimit⟩
      rw [pageRows, hcursor] at hlimit
      cases hlimit
    · rintro ⟨⟨cursor, hdecodes⟩, -⟩
      cases hdecodes
  | ok cursor =>
    have hsize := request.lookAhead_mem h
    rw [pageRows_of_decode hcursor, Table.page, Keyset.select]
    cases hlimit : Keyset.limitFault? (request.lookAhead db.maxPageSize) with
    | some fault =>
      refine iff_of_true ⟨fault, rfl⟩ ⟨⟨cursor, rfl⟩, Int.not_le.1 fun hle => ?_⟩
      have hnone := Keyset.limitFault?_eq_none_iff.2 ⟨by omega, hle⟩
      rw [hlimit] at hnone
      cases hnone
    | none =>
      refine iff_of_false nofun fun hfails => ?_
      have hle := (Keyset.limitFault?_eq_none_iff.1 hlimit).2
      omega

/-- **The collections fail for no size.** -/
theorem Memory.not_failsForSize (request : ListRequest) (memory : Memory) :
    ¬ FailsForSize (ConfigStore.list request memory).answer := by
  rw [failsForSize_list_iff]
  rintro ⟨fault, hfault⟩
  replace hfault : memory.pageEntries request = .error (.limit fault) := hfault
  unfold pageEntries at hfault
  cases hcursor : PageToken.decode request.pageToken with
  | error fault =>
    rw [hcursor] at hfault
    cases hfault
  | ok cursor =>
    rw [hcursor] at hfault
    cases hfault

/-! ## The maximum that is set -/

namespace MaxPageSize

variable {room : Nat} {properties : Properties} {size : MaxPageSize}

/-- An infinite override has no maximum page size. -/
theorem finiteOverride_of_load (h : load room properties = .ok size) : FiniteOverride properties := by
  intro negative hover
  unfold load at h
  rw [Properties.value_eq_ok_iff.2 (Or.inl hover)] at h
  cases h

/-- **A maximum from the limit on is one that the property gives.** -/
theorem maxLimit_le_iff (h : load room properties = .ok size) :
    Keyset.maxLimit ≤ size.value ↔ ∃ n, Keyset.maxLimit ≤ n ∧ Gives room properties n := by
  have hfinite := finiteOverride_of_load h
  have hfits := (exists_load_iff hfinite).1 ⟨size, h⟩
  have htaken : ∀ n, 0 < n → Gives room properties n → size.value = n := by
    intro n hpos hgives
    rw [load_of_gives hfinite hpos hgives] at h
    cases h
    rfl
  constructor
  · intro hlarge
    by_cases hgives : ∃ n, 0 < n ∧ Gives room properties n
    · obtain ⟨n, hpos, hn⟩ := hgives
      exact ⟨n, htaken n hpos hn ▸ hlarge, hn⟩
    · -- The default is below the limit.
      obtain ⟨fallback, hload, hvalue, -⟩ := load_of_not_gives hfinite hfits fun n hn =>
        Int.not_lt.1 fun hpos => hgives ⟨n, hpos, hn⟩
      rw [hload] at h
      cases h
      rw [hvalue] at hlarge
      exact absurd hlarge (by decide)
  · rintro ⟨n, hlarge, hn⟩
    have hpos : 0 < n := Int.lt_of_lt_of_le (by decide) hlarge
    rw [htaken n hpos hn]
    exact hlarge

end MaxPageSize

/-! ## The whole of it -/

/-- Whether the look-ahead row is a matter of the property alone, once it has given a maximum. At least
    two rows are asked for, and at most one more than the maximum. They are within the limit of a query
    if the maximum is below the limit or the page that is asked for. If they are not, the database fails
    for the size of the page, whatever it holds, unless it fails for the token; the collections never do.
    So no listing fails for its size exactly if the property gives no number from the limit on. -/
structure LooksAhead (room : Nat) (properties : Properties) (size : MaxPageSize) : Prop where
  bounds : ∀ request : ListRequest,
    2 ≤ request.lookAhead size.value ∧ request.lookAhead size.value ≤ size.value + 1
  within : ∀ request : ListRequest, request.lookAhead size.value ≤ Keyset.maxLimit ↔
    size.value < Keyset.maxLimit ∨ 1 ≤ request.pageSize ∧ request.pageSize < Keyset.maxLimit
  database : ∀ (table : Table) (request : ListRequest),
    FailsForSize (ConfigStore.list request (⟨size.value, table⟩ : Database)).answer ↔
      (∃ cursor, PageToken.decode request.pageToken = .ok cursor) ∧
        Keyset.maxLimit < request.lookAhead size.value
  collections : ∀ (tasks : Entries String TaskConfigs) (request : ListRequest),
    ¬ FailsForSize (ConfigStore.list request (⟨size.value, tasks⟩ : Memory)).answer
  never_iff : (∀ (table : Table) (request : ListRequest),
    ¬ FailsForSize (ConfigStore.list request (⟨size.value, table⟩ : Database)).answer) ↔
      ∀ n, MaxPageSize.Gives room properties n → n < Keyset.maxLimit

/-- **No listing fails for its size if the property gives no number from the limit on**, and from there
    on listings do. -/
theorem looks_ahead {room : Nat} {properties : Properties} {size : MaxPageSize}
    (h : MaxPageSize.load room properties = .ok size) : LooksAhead room properties size := by
  have hone : 1 ≤ size.value := MaxPageSize.value_pos h
  have hlarge := MaxPageSize.maxLimit_le_iff h
  have hdatabase : ∀ (table : Table) (request : ListRequest),
      FailsForSize (ConfigStore.list request (⟨size.value, table⟩ : Database)).answer ↔
        (∃ cursor, PageToken.decode request.pageToken = .ok cursor) ∧
          Keyset.maxLimit < request.lookAhead size.value :=
    fun _ _ => Database.failsForSize_iff hone
  refine ⟨fun request => request.lookAhead_mem hone, fun request => request.lookAhead_le_maxLimit_iff,
    hdatabase, fun tasks request => Memory.not_failsForSize request _, ?_, ?_⟩
  · intro hnever n hn
    refine Int.not_le.1 fun hle => ?_
    have hmaximum := hlarge.2 ⟨n, hle, hn⟩
    -- A request without a token and without a size asks for one row more than the maximum.
    refine hnever [] ⟨"", 0, none, ""⟩ ((hdatabase _ _).2 ⟨⟨none, rfl⟩, ?_⟩)
    show Keyset.maxLimit < size.value + 1
    omega
  · intro hbelow table request hfails
    have hmaximum : size.value < Keyset.maxLimit := Int.not_le.1 fun hle => by
      obtain ⟨n, hn, hgives⟩ := hlarge.1 hle
      exact absurd (hbelow n hgives) (Int.not_lt.2 hn)
    have hlimit := ((hdatabase table request).1 hfails).2
    have hwithin := request.lookAhead_le_maxLimit_iff.2 (Or.inl hmaximum)
    omega

/-- The largest maximum that leaves room for the look-ahead row. -/
theorem looks_ahead_below_limit :
    let properties : Properties := ⟨[], [(maxPageSizeProperty, .str "9223372036854775806")]⟩
    let size : MaxPageSize := ⟨9223372036854775806, []⟩
    MaxPageSize.load 0 properties = .ok size ∧ LooksAhead 0 properties size := by
  intro properties size
  have hload : MaxPageSize.load 0 properties = .ok size := by rfl
  exact ⟨hload, looks_ahead hload⟩

/-- **The next maximum is taken as well, but it leaves no room**: a single config is not listed from the
    database, for the size of the page alone, while the collections list it. -/
theorem no_room_at_limit :
    let properties : Properties := ⟨[], [(maxPageSizeProperty, .str "9223372036854775807")]⟩
    let config : PushConfig := ⟨"https://example.org", none, none, none⟩
    let request : ListRequest := ⟨"t", 10 ^ 30, none, ""⟩
    ∃ size, MaxPageSize.load 0 properties = .ok size ∧
      Keyset.maxLimit < request.lookAhead size.value ∧
      FailsForSize (ConfigStore.list request
        (⟨size.value, [(⟨"t", "a"⟩, ⟨none, Schema.writeText config⟩)]⟩ : Database)).answer ∧
      ∃ page, (ConfigStore.list request
        (⟨size.value, [("t", [("a", ⟨none, config⟩)])]⟩ : Memory)).answer = .ok page := by
  intro properties config request
  have hlimit : Keyset.maxLimit < request.lookAhead Keyset.maxLimit := by decide
  refine ⟨⟨Keyset.maxLimit, []⟩, by rfl, hlimit, ?_, ?_⟩
  · exact (Database.failsForSize_iff (by decide)).2 ⟨⟨none, rfl⟩, hlimit⟩
  · exact ⟨_, rfl⟩

end WebhookRegistry
