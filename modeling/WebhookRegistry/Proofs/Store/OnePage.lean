/-
  One page, for any token that can be read.

  A token need not have come from the store: its cursor may name a config that is gone, one of another
  task or no place at all. What a page then holds is said without a query or a sort:

  1. **What is still to come** (`Remaining`): the records of the task strictly after the cursor, in
     order. A store lists just that (`remaining_due`), and no other list is it (`Remaining.eq_due`). The
     page size says how many of them a page is due (`PageDue`).

  2. **What the page shows** (`ShowsFirst`): the first of them, and a token exactly if more are left over,
     which names the last one shown. Only this step reads payloads (`ShowsFirst.of_cut`).

  3. **Where the token leads** (`AnswersPage`): to what is left over, if all times are whole milliseconds.

  The collections answer every such request. The database asks for one row more than the page holds, so
  it answers as long as that number is within the limit of a query (`Database.answer_list_of_limit`).
-/
import WebhookRegistry.Proofs.Store.Listing

namespace WebhookRegistry

open RecordStore

section

variable {σ π : Type} [RecordStore σ π]

/-! ## What is still to come -/

/-- Whether records are those of a task that come strictly after a cursor, in order; without a cursor
    they are all the records of the task. -/
structure Remaining (taskId : String) (cursor : Option Cursor) (store : σ) (records : List (Record π)) :
    Prop where
  inOrder : Keyset.InOrder Record.position records
  mem_iff : ∀ record, record ∈ records ↔
    record ∈ recordsOf taskId store ∧ ∀ c ∈ cursor, c.position.Before record.position

/-- Whether a request is due the first `size` of some records: those still to come, and as many as it
    asks for if that is allowed, else the maximum. -/
structure PageDue (request : ListRequest) (cursor : Option Cursor) (store : σ)
    (records : List (Record π)) (size : Nat) : Prop
    extends Remaining request.id cursor store records where
  size_eq : (size : Int) =
    if 1 ≤ request.pageSize ∧ request.pageSize ≤ maxPageSize store then request.pageSize
    else maxPageSize store

/-- **The page size is the one asked for if the store allows it**, and the maximum else. -/
theorem pageSize_eq {store : σ} (h : 1 ≤ maxPageSize store) (request : ListRequest) :
    (pageSize request store : Int) =
      if 1 ≤ request.pageSize ∧ request.pageSize ≤ maxPageSize store then request.pageSize
      else maxPageSize store := by
  have hnonneg : 0 ≤ request.effectivePageSize (maxPageSize store) := by
    have hone := (request.effectivePageSize_mem h).1
    omega
  rw [show (pageSize request store : Int) = request.effectivePageSize (maxPageSize store) from
    Int.toNat_of_nonneg hnonneg]
  by_cases hallowed : 1 ≤ request.pageSize ∧ request.pageSize ≤ maxPageSize store
  · rw [if_pos hallowed]
    exact if_neg (by omega)
  · rw [if_neg hallowed]
    exact if_pos (by omega)

end

section

variable {σ π : Type} [Payload π] [ConfigStore σ] [RecordStore σ π] [LawfulStore σ π]
variable {store : σ} {request : ListRequest} {cursor : Option Cursor}

/-- **A store lists what is still to come** if it repeats no key. -/
theorem remaining_due (h : Unique store) (taskId : String) (cursor : Option Cursor) :
    Remaining taskId cursor store (due taskId cursor store) where
  inOrder := Keyset.inOrder_ordered (LawfulStore.nodup_keys_recordsOf taskId h)
  mem_iff record := by
    have hmem : record ∈ due taskId cursor store ↔
        record ∈ recordsOf taskId store ∧ record.position.follows cursor = true := Keyset.mem_ordered
    rw [hmem, Position.follows_iff_forall]

/-- So there is just one list of what is still to come. -/
theorem Remaining.eq_due {taskId : String} {records : List (Record π)} (h : Unique store)
    (hremaining : Remaining taskId cursor store records) : records = due taskId cursor store := by
  have hdue := remaining_due h taskId cursor
  refine Keyset.eq_of_inOrder hremaining.inOrder hdue.inOrder fun record => ?_
  rw [hremaining.mem_iff, hdue.mem_iff]

theorem pageDue (hunique : Unique store) (hmax : 1 ≤ maxPageSize store) (request : ListRequest)
    (cursor : Option Cursor) :
    PageDue request cursor store (due request.id cursor store) (pageSize request store) where
  toRemaining := remaining_due hunique request.id cursor
  size_eq := pageSize_eq hmax request

/-! ## What a page shows -/

/-- Whether a page shows the first of some records, at most `size` of them: each as its payload says it
    and with the task and the tenant of the request, and a token exactly if there are more, which is that
    of the last record shown. -/
structure ShowsFirst (request : ListRequest) (size : Nat) (records : List (Record π))
    (page : ConfigPage) : Prop where
  configs : (records.take size).map Record.config = page.configs.map fun item => .ok item.config
  wrapped : ∀ item ∈ page.configs, item.taskId = request.id ∧ item.tenant = request.tenant
  last_iff : page.nextPageToken = none ↔ records.length ≤ size
  token : ∀ token, page.nextPageToken = some token →
    ∃ last, (records.take size).getLast? = some last ∧ token = last.position.token

/-- **A page cut off some records shows the first of them** if those can be read. -/
theorem ShowsFirst.of_cut {size : Nat} (hsize : 1 ≤ size) {records : List (Record π)}
    {configs : List PushConfig}
    (hconfigs : (Keyset.cut Record.position size records).1.map Record.config = configs.map .ok) :
    ShowsFirst request size records
      (ConfigPage.of request configs (Keyset.cut Record.position size records).2) where
  configs := by
    rw [Keyset.fst_cut] at hconfigs
    rw [hconfigs]
    simp [ConfigPage.of]
  wrapped item hitem := by
    obtain ⟨config, -, rfl⟩ := List.mem_map.1 hitem
    exact ⟨rfl, rfl⟩
  last_iff := Keyset.snd_cut_eq_none_iff hsize
  token token htoken := by
    obtain ⟨-, last, -, hlast, heq⟩ := Keyset.split_of_snd_cut hsize htoken
    exact ⟨last, hlast, heq⟩

/-! ## Where its token leads -/

/-- Whether a request gets the page that it is due: the first records after its cursor, as many as the
    page size allows, and a token exactly if some are left over. The token is read as the place of the
    last record shown, and what comes after it are those left over. -/
def AnswersPage (request : ListRequest) (cursor : Option Cursor) (store : σ) : Prop :=
  ∃ (records : List (Record π)) (size : Nat) (page : ConfigPage),
    PageDue request cursor store records size ∧
    (ConfigStore.list request store).answer = .ok page ∧ ShowsFirst request size records page ∧
    ∀ token, page.nextPageToken = some token → ∃ last next,
      (records.take size).getLast? = some last ∧ PageToken.decode (some token) = .ok (some next) ∧
      next.At last.position ∧ Remaining request.id (some next) store (records.drop size)

/-- **A sound store answers the page that is due** if it makes pages of its size. -/
theorem RecordStore.Sound.answersPage (h : Sound store) (htakes : Takes request store)
    (hcursor : PageToken.decode request.pageToken = .ok cursor) :
    AnswersPage request cursor store := by
  have hone : 1 ≤ pageSize request store := one_le_pageSize h.one_le_maxPageSize request
  have hpage := (pageRecords_eq_ok_iff h.toTidy).2 ⟨htakes, cursor, hcursor, rfl⟩
  obtain ⟨configs, hconfigs⟩ := h.healthy.exists_configs_of_cut request.id cursor _
  have hanswer := answer_list_eq_ok hpage hconfigs
  refine ⟨_, _, _, pageDue h.unique h.one_le_maxPageSize request cursor, hanswer,
    ShowsFirst.of_cut hone hconfigs, ?_⟩
  intro token htoken
  obtain ⟨front, last, hsplit, hlast, rfl⟩ := Keyset.split_of_snd_cut hone htoken
  obtain ⟨next, hnext, hat, hdue⟩ := h.due_after hsplit
  refine ⟨last, next, hlast, hnext, hat, ?_⟩
  rw [← hdue]
  exact remaining_due h.unique request.id (some next)

end

/-! ## Both stores -/

namespace Database

variable {db : Database} {request : ListRequest} {cursor : Option Cursor}

/-- So a page that is answered has a look-ahead row within the limit. -/
theorem limit_of_answersPage (h : 1 ≤ db.maxPageSize)
    (hcursor : PageToken.decode request.pageToken = .ok cursor)
    (hpage : AnswersPage request cursor db) :
    request.effectivePageSize db.maxPageSize + 1 ≤ Keyset.maxLimit := by
  obtain ⟨-, -, page, -, hanswer, -, -⟩ := hpage
  refine Int.not_lt.1 fun hlimit => ?_
  obtain ⟨fault, hrefused⟩ := answer_list_of_limit h hcursor hlimit
  rw [hrefused] at hanswer
  cases hanswer

end Database

/-- **Every request with a token that can be read gets the page that it is due**: from the collections
    always, and from the database exactly if its look-ahead row is within the limit of a query. -/
theorem one_page (db : Database) (memory : Memory) (request : ListRequest) (cursor : Option Cursor)
    (hdb : Sound db) (hmemory : Sound memory)
    (hcursor : PageToken.decode request.pageToken = .ok cursor) :
    (AnswersPage request cursor db ↔
      request.effectivePageSize db.maxPageSize + 1 ≤ Keyset.maxLimit) ∧
    AnswersPage request cursor memory := by
  refine ⟨⟨?_, ?_⟩, hmemory.answersPage (Memory.takes request memory) hcursor⟩
  · intro hpage
    exact Database.limit_of_answersPage hdb.one_le_maxPageSize hcursor hpage
  · intro hlimit
    exact hdb.answersPage ((Database.takes_iff hdb.one_le_maxPageSize).2 hlimit) hcursor

/-- A page of one behind a forged cursor: its config is of another task, and it stands between two
    configs of this task that tie with it, one of them without a time. -/
theorem one_page_after_forged_token :
    let config : PushConfig := ⟨"https://example.org", none, none, none⟩
    let early : Instant := ⟨-1000, by decide, by decide⟩
    let db : Database :=
      ⟨1, [(⟨"t", "z"⟩, ⟨some early, Schema.writeText config⟩),
        (⟨"t", "c"⟩, ⟨some .epoch, Schema.writeText config⟩),
        (⟨"t", "a"⟩, ⟨none, Schema.writeText config⟩),
        (⟨"u", "b"⟩, ⟨none, Schema.writeText config⟩)]⟩
    let memory : Memory :=
      ⟨1, [("t", [("z", ⟨some early, config⟩), ("c", ⟨some .epoch, config⟩), ("a", ⟨none, config⟩)]),
        ("u", [("b", ⟨none, config⟩)])]⟩
    let request : ListRequest := ⟨"t", 7, some "-0:b", "tenant"⟩
    let cursor : Cursor := ⟨.unset, "b"⟩
    Sound db ∧ Sound memory ∧ PageToken.decode request.pageToken = .ok (some cursor) ∧
      AnswersPage request (some cursor) db ∧ AnswersPage request (some cursor) memory := by
  intro config early db memory request cursor
  have hpayload : ∀ row ∈ db.table, row.2.payload = Schema.writeText config := by
    intro row hrow
    simp only [db, List.mem_cons, List.not_mem_nil, or_false] at hrow
    rcases hrow with rfl | rfl | rfl | rfl <;> rfl
  have hdb : Sound db := by
    refine Database.sound_of_rows (by decide) (by decide) (by decide) fun row hrow => ⟨config, ?_⟩
    show Schema.readText row.2.payload = .ok config
    rw [hpayload row hrow]
    exact PushConfig.readText_writeText config
  have hmemory : Sound memory := Memory.sound_of_entries (by decide) (by decide) (by decide)
  have hcursor : PageToken.decode request.pageToken = .ok (some cursor) := rfl
  obtain ⟨hpage, hcollections⟩ := one_page db memory request (some cursor) hdb hmemory hcursor
  exact ⟨hdb, hmemory, hcursor, hpage.2 (by decide), hcollections⟩

/-- **The largest page size that the database could take leaves no room for the look-ahead row**: a
    single config is not listed, while the collections list it. -/
theorem no_page_of_maxLimit :
    let config : PushConfig := ⟨"https://example.org", none, none, none⟩
    let db : Database := ⟨Keyset.maxLimit, [(⟨"t", "a"⟩, ⟨none, Schema.writeText config⟩)]⟩
    let memory : Memory := ⟨Keyset.maxLimit, [("t", [("a", ⟨none, config⟩)])]⟩
    let request : ListRequest := ⟨"t", 0, none, ""⟩
    Sound db ∧ Sound memory ∧ PageToken.decode request.pageToken = .ok none ∧
      ¬ AnswersPage request none db ∧ AnswersPage request none memory := by
  intro config db memory request
  have hdb : Sound db := by
    refine Database.sound_of_rows (by decide) (by decide) (by decide) fun row hrow => ⟨config, ?_⟩
    rw [List.mem_singleton.1 hrow]
    exact PushConfig.readText_writeText config
  have hmemory : Sound memory := Memory.sound_of_entries (by decide) (by decide) (by decide)
  have hcursor : PageToken.decode request.pageToken = .ok none := rfl
  refine ⟨hdb, hmemory, hcursor, ?_, hmemory.answersPage (Memory.takes request memory) hcursor⟩
  intro hpage
  have hlimit := Database.limit_of_answersPage hdb.one_le_maxPageSize hcursor hpage
  exact absurd hlimit (by decide)

end WebhookRegistry
