/-
  Listing a store whose times may be finer than a token can carry.

  Such times come from records that were not written by the stores themselves. A page then starts at the
  rounded place of the last record of the page before it, so records may be skipped, but two things hold
  at the resolution at which the store sorts:

  1. **One call** (`ListsBy`): both stores cut their pages off a listing at a resolution, the database at
     microseconds and the collections at milliseconds.

  2. **The next call** finds a part of what the page had left over (`Keyset.mem_rest_of_mem_ranked`). So
     the number of records that can still come falls with every page, and they all come after those that
     have been shown (`ListsBy.exists_progress`, by induction on that number).
-/
import WebhookRegistry.Proofs.Paging.Resolution
import WebhookRegistry.Proofs.Store.Listing

namespace WebhookRegistry

open RecordStore

/-- The records of a task after a cursor, in the order of their places at a resolution. -/
def RecordStore.dueAt {σ π : Type} [RecordStore σ π] (resolution : Resolution) (taskId : String)
    (cursor : Option Cursor) (store : σ) : List (Record π) :=
  Keyset.ranked resolution Record.position cursor (recordsOf taskId store)

/-- Whether a store is healthy and cuts its pages off its listings at a resolution. -/
structure ListsBy {σ π : Type} [Payload π] [RecordStore σ π] (resolution : Resolution) (store : σ) :
    Prop extends Healthy store where
  pageRecords_eq : ∀ request, pageRecords request store =
    pageOf (fun cursor => dueAt resolution request.id cursor store) request store

/-- **The database lists to the microsecond.** -/
theorem Database.listsBy {db : Database} (h : Healthy db) : ListsBy .micros db where
  toHealthy := h
  pageRecords_eq request := by
    rw [Database.pageRecords_eq request h.one_le_maxPageSize, duePage_eq_pageOf]
    unfold due dueAt
    simp only [Keyset.ordered_eq_ranked]

/-- **The collections list to the millisecond.** -/
theorem Memory.listsBy {memory : Memory} (h : Healthy memory) : ListsBy .millis memory where
  toHealthy := h
  pageRecords_eq request := by
    show memory.pageEntries request = _
    unfold Memory.pageEntries pageOf
    cases PageToken.decode request.pageToken with
    | error fault => rfl
    | ok cursor =>
      dsimp only
      rw [Keyset.listing_eq_ranked]
      rfl

section

variable {σ π : Type} [Payload π] [ConfigStore σ] [RecordStore σ π] [LawfulStore σ π]
variable {resolution : Resolution} {store : σ} {request : ListRequest}

/-! ## One call -/

theorem ListsBy.inOrderAt_dueAt (h : ListsBy resolution store) (taskId : String)
    (cursor : Option Cursor) :
    Keyset.InOrderAt resolution Record.position (dueAt resolution taskId cursor store) :=
  Keyset.inOrderAt_ranked (LawfulStore.nodup_keys_recordsOf taskId h.unique)

/-- **The token of a page leads to a part of what it has left over.** -/
theorem ListsBy.dueAt_after (h : ListsBy resolution store) {taskId : String} {cursor : Option Cursor}
    {front rest : List (Record π)} {last : Record π}
    (hsplit : dueAt resolution taskId cursor store = front ++ last :: rest) :
    ∃ next, PageToken.decode (some last.position.token) = .ok (some next) ∧
      dueAt resolution taskId (some next) store ⊆ rest ∧
      (dueAt resolution taskId (some next) store).length ≤ rest.length := by
  obtain ⟨next, hdecode, hat⟩ := last.position.decode_token_rounded
  have hsub : dueAt resolution taskId (some next) store ⊆ rest := fun _ hrecord =>
    Keyset.mem_rest_of_mem_ranked hsplit (LawfulStore.nodup_keys_recordsOf taskId h.unique) hat hrecord
  have hnodup := (h.inOrderAt_dueAt taskId (some next)).nodup
  exact ⟨next, hdecode, hsub, hnodup.length_le_of_subset hsub⟩

/-- **A page is answered with the configs of its records**: all of them can be read. -/
theorem ListsBy.exists_answer (h : ListsBy resolution store) {cursor : Option Cursor}
    {records : List (Record π)} {next : Option String} (htakes : Takes request store)
    (hcursor : PageToken.decode request.pageToken = .ok cursor)
    (hcut : Keyset.cut Record.position (pageSize request store)
      (dueAt resolution request.id cursor store) = (records, next)) :
    ∃ configs : List PushConfig, records.map Record.config = configs.map .ok ∧
      (ConfigStore.list request store).answer = .ok (ConfigPage.of request configs next) := by
  have hpage := h.pageRecords_eq request ▸ pageOf_eq_ok_iff.2 ⟨htakes, cursor, hcursor, hcut⟩
  have hsub := Keyset.cut_sublist Record.position (pageSize request store)
    (dueAt resolution request.id cursor store)
  rw [hcut] at hsub
  obtain ⟨configs, hconfigs⟩ := h.toHealthy.exists_configs fun record hrecord =>
    (Keyset.mem_ranked.1 (hsub.subset hrecord)).1
  exact ⟨configs, hconfigs, answer_list_eq_ok hpage hconfigs⟩

/-- **Only the token or the size of a page can be refused**: in a healthy store every record of a page
    is read. -/
theorem ListsBy.answer_list_eq_error_iff (h : ListsBy resolution store) {failure : Failure} :
    (ConfigStore.list request store).answer = .error failure ↔
      (∃ fault, PageToken.decode request.pageToken = .error fault ∧ failure = .token fault) ∨
        ∃ cursor fault, PageToken.decode request.pageToken = .ok cursor ∧
          limitFault? store (request.effectivePageSize (maxPageSize store)) = some fault ∧
          failure = .limit fault := by
  rw [← pageOf_eq_error_iff, ← h.pageRecords_eq]
  cases hpage : pageRecords request store with
  | error f =>
    rw [LawfulStore.answer_list, hpage, shown]
    constructor <;> intro heq <;> cases heq <;> rfl
  | ok page =>
    obtain ⟨records, next⟩ := page
    obtain ⟨htakes, cursor, hcursor, hcut⟩ := pageOf_eq_ok_iff.1 (h.pageRecords_eq request ▸ hpage)
    obtain ⟨configs, -, hanswer⟩ := h.exists_answer htakes hcursor hcut
    rw [hanswer]
    constructor <;> intro heq <;> cases heq

/-! ## Page after page -/

/-- What comes of following the tokens from a request on: pages that show some of the records found, the
    first ones on the first page, strictly in order at a resolution, all pages full but the last, and no
    more pages than records. -/
structure Progress (resolution : Resolution) (request : ListRequest) (store : σ)
    (found records : List (Record π)) (pages : List ConfigPage) : Prop where
  mem_found : ∀ record ∈ records, record ∈ found
  first : records.take (pageSize request store) = found.take (pageSize request store)
  inOrderAt : Keyset.InOrderAt resolution Record.position records
  shown : records.map Record.config =
    (pages.flatMap ConfigPage.configs).map fun listed => .ok listed.config
  full : ∀ page ∈ pages.dropLast, page.configs.length = pageSize request store
  ne_nil : pages ≠ []
  length_le : pages.length ≤ max 1 found.length
  answer : ∀ bound, pages.length ≤ bound → (listPages bound request store).answer = .ok pages

omit [LawfulStore σ π] in
/-- A page without a token ends the listing. -/
theorem Progress.single {found : List (Record π)} {configs : List PushConfig}
    (horder : Keyset.InOrderAt resolution Record.position found)
    (hconfigs : found.map Record.config = configs.map .ok)
    (hanswer : (ConfigStore.list request store).answer = .ok (ConfigPage.of request configs none)) :
    Progress resolution request store found found [ConfigPage.of request configs none] where
  mem_found _ hrecord := hrecord
  first := rfl
  inOrderAt := horder
  shown := by
    rw [hconfigs, List.flatMap_singleton]
    simp [ConfigPage.of]
  full _ hpage := absurd hpage List.not_mem_nil
  ne_nil := List.cons_ne_nil _ _
  length_le := Nat.le_max_left _ _
  answer bound hbound := by
    obtain ⟨b, rfl⟩ := Nat.exists_eq_add_of_le' hbound
    exact answer_listPages_of_last b hanswer rfl

/-- A full page goes before what comes of following its token, if all that is found there was left
    over. -/
theorem Progress.cons {front rest later records : List (Record π)} {last : Record π}
    {configs : List PushConfig} {token : String} {pages : List ConfigPage}
    (horder : Keyset.InOrderAt resolution Record.position (front ++ last :: rest))
    (hrest : rest ≠ []) (hsize : front.length + 1 = pageSize request store)
    (hconfigs : (front ++ [last]).map Record.config = configs.map .ok)
    (hanswer : (ConfigStore.list request store).answer =
      .ok (ConfigPage.of request configs (some token)))
    (hsub : later ⊆ rest) (hle : later.length ≤ rest.length)
    (h : Progress resolution { request with pageToken := some token } store later records pages) :
    Progress resolution request store (front ++ last :: rest) ((front ++ [last]) ++ records)
      (ConfigPage.of request configs (some token) :: pages) where
  mem_found record hrecord := by
    rw [List.append_cons, List.mem_append]
    rcases List.mem_append.1 hrecord with hpage | hmore
    · exact Or.inl hpage
    · exact Or.inr (hsub (h.mem_found record hmore))
  first := by
    have hpage : (front ++ [last]).length = pageSize request store := by
      rw [List.length_append, List.length_singleton]
      exact hsize
    rw [List.append_cons front last rest, ← hpage, List.take_left, List.take_left]
  inOrderAt := by
    rw [List.append_cons] at horder
    obtain ⟨hpage, -, hacross⟩ := List.pairwise_append.1 horder
    refine List.pairwise_append.2 ⟨hpage, h.inOrderAt, fun a ha b hb => ?_⟩
    exact hacross a ha b (hsub (h.mem_found b hb))
  shown := by
    rw [List.map_append, hconfigs, h.shown, List.flatMap_cons, List.map_append]
    simp [ConfigPage.of]
  full page hpage := by
    rw [List.dropLast_cons_of_ne_nil h.ne_nil] at hpage
    rcases List.mem_cons.1 hpage with rfl | hmore
    · have hlength := congrArg List.length hconfigs
      simp only [List.length_map, List.length_append, List.length_singleton] at hlength
      simp only [ConfigPage.of, List.length_map]
      omega
    · exact h.full page hmore
  ne_nil := List.cons_ne_nil _ _
  length_le := by
    have hpos := List.length_pos_iff.2 hrest
    have hpages := h.length_le
    rw [List.length_cons, List.length_append, List.length_cons]
    omega
  answer bound hbound := by
    rw [List.length_cons] at hbound
    obtain ⟨b, rfl⟩ := Nat.exists_eq_add_of_le' (Nat.le_of_add_left_le hbound)
    refine answer_listPages_of_more b hanswer rfl ?_
    rw [LawfulStore.store_list]
    exact h.answer b (by omega)

/-- **Following the tokens ends and repeats nothing**, from any cursor on. -/
theorem ListsBy.exists_progress (h : ListsBy resolution store) {request : ListRequest}
    {cursor : Option Cursor} (htakes : Takes request store)
    (hcursor : PageToken.decode request.pageToken = .ok cursor) :
    ∃ records pages, Progress resolution request store (dueAt resolution request.id cursor store)
      records pages := by
  have hone := one_le_pageSize h.one_le_maxPageSize request
  -- What is found falls with every page, since the next call finds a part of what is left over.
  induction hn : (dueAt resolution request.id cursor store).length using Nat.strongRecOn
    generalizing request cursor with
  | ind n ih =>
    subst hn
    have horder := h.inOrderAt_dueAt request.id cursor
    rcases Keyset.cut_cases Record.position hone (dueAt resolution request.id cursor store) with
      ⟨-, hcut⟩ | ⟨front, last, rest, hsplit, hrest, hfull, hcut⟩
    · obtain ⟨configs, hconfigs, hanswer⟩ := h.exists_answer htakes hcursor hcut
      exact ⟨_, _, .single horder hconfigs hanswer⟩
    · obtain ⟨configs, hconfigs, hanswer⟩ := h.exists_answer htakes hcursor hcut
      obtain ⟨next, hnext, hsubset, hle⟩ := h.dueAt_after hsplit
      have hless : (dueAt resolution request.id (some next) store).length <
          (dueAt resolution request.id cursor store).length := by
        rw [hsplit, List.length_append, List.length_cons]
        omega
      have hrec : ∃ records pages, Progress resolution
          { request with pageToken := some last.position.token } store
          (dueAt resolution request.id (some next) store) records pages :=
        ih _ hless htakes hnext hone rfl
      obtain ⟨records, pages, hprogress⟩ := hrec
      rw [hsplit] at horder ⊢
      exact ⟨_, _, hprogress.cons horder hrest hfull hconfigs hanswer hsubset hle⟩

/-- Whether following the tokens from a request on ends after at most as many calls as its task has
    records, with no record shown twice and all of them strictly in order at a resolution, beginning with
    the first ones. -/
def ListsOnce (resolution : Resolution) (request : ListRequest) (store : σ) : Prop :=
  ∃ (found records : List (Record π)) (pages : List ConfigPage),
    found.Perm (recordsOf request.id store) ∧ Keyset.InOrderAt resolution Record.position found ∧
      Progress resolution request store found records pages ∧ (records.map Prod.fst).Nodup

/-- From an empty token on the listing ends without repetition. -/
theorem ListsBy.listsOnce (h : ListsBy resolution store) {request : ListRequest}
    (htakes : Takes request store) (htoken : request.pageToken.getD "" = "") :
    ListsOnce resolution request store := by
  obtain ⟨records, pages, hprogress⟩ := h.exists_progress htakes (PageToken.decode_of_empty htoken)
  refine ⟨_, records, pages, Keyset.ranked_none_perm _, h.inOrderAt_dueAt request.id none, hprogress, ?_⟩
  -- Records of one id are one record, and that does not come before itself.
  have hget : ∀ record ∈ records, get? ⟨request.id, record.1⟩ store = some record.2 :=
    fun record hrecord =>
      (mem_recordsOf h.unique).1 (Keyset.mem_ranked.1 (hprogress.mem_found record hrecord)).1
  refine List.pairwise_map.2 (hprogress.inOrderAt.imp_of_mem ?_)
  rintro ⟨i, a⟩ ⟨j, b⟩ ha hb hbefore hid
  cases (show i = j from hid)
  cases (hget (i, a) ha).symm.trans (hget (i, b) hb)
  exact Position.not_before_self _ hbefore

end

/-! ## Both stores -/

/-- A page size that the database does not take ends a listing at once. -/
theorem Database.answer_listPages_of_limit {db : Database} (h : Healthy db) {request : ListRequest}
    (hlimit : Keyset.maxLimit < request.effectivePageSize db.maxPageSize + 1)
    (htoken : request.pageToken.getD "" = "") :
    ∃ fault, ∀ bound, (listPages (bound + 1) request db).answer = .error (.limit fault) := by
  obtain ⟨fault, hanswer⟩ :=
    Database.answer_list_of_limit h.one_le_maxPageSize (PageToken.decode_of_empty htoken) hlimit
  refine ⟨fault, fun bound => ?_⟩
  unfold listPages
  dsimp only
  rw [hanswer]

/-- **Following the tokens always ends and repeats nothing**, however fine the times of a healthy store
    are: at the resolution of the store the records come strictly in order. A page size beyond the limit
    of a query is refused on the first call. -/
theorem fine_listing_ends (db : Database) (memory : Memory) (request : ListRequest)
    (hdb : Healthy db) (hmemory : Healthy memory) (htoken : request.pageToken.getD "" = "") :
    (request.effectivePageSize db.maxPageSize + 1 ≤ Keyset.maxLimit → ListsOnce .micros request db) ∧
      (Keyset.maxLimit < request.effectivePageSize db.maxPageSize + 1 →
        ∃ fault, ∀ bound, (listPages (bound + 1) request db).answer = .error (.limit fault)) ∧
      ListsOnce .millis request memory :=
  ⟨fun hlimit => (Database.listsBy hdb).listsOnce
      ((Database.takes_iff hdb.one_le_maxPageSize).2 hlimit) htoken,
    fun hlimit => Database.answer_listPages_of_limit hdb hlimit htoken,
    (Memory.listsBy hmemory).listsOnce (Memory.takes request memory) htoken⟩

/-- Two configs of one millisecond, the second one earlier in it than the first, on pages of one. -/
theorem fine_listing_of_one_millisecond :
    let config : PushConfig := ⟨"https://example.org", none, none, none⟩
    let late : Instant := ⟨1500, by decide, by decide⟩
    let early : Instant := ⟨1200, by decide, by decide⟩
    let db : Database :=
      ⟨1, [(⟨"t", "a"⟩, ⟨some late, Schema.writeText config⟩),
        (⟨"t", "b"⟩, ⟨some early, Schema.writeText config⟩)]⟩
    let memory : Memory := ⟨1, [("t", [("a", ⟨some late, config⟩), ("b", ⟨some early, config⟩)])]⟩
    let request : ListRequest := ⟨"t", 0, some "", "tenant"⟩
    Healthy db ∧ Healthy memory ∧ request.effectivePageSize db.maxPageSize + 1 ≤ Keyset.maxLimit ∧
      ListsOnce .micros request db ∧ ListsOnce .millis request memory := by
  intro config late early db memory request
  have hpayload : ∀ row ∈ db.table, row.2.payload = Schema.writeText config := by
    intro row hrow
    simp only [db, List.mem_cons, List.not_mem_nil, or_false] at hrow
    rcases hrow with rfl | rfl <;> rfl
  have hdb : Healthy db := by
    refine Database.healthy_of_rows (by decide) (by decide) fun row hrow => ⟨config, ?_⟩
    show Schema.readText row.2.payload = .ok config
    rw [hpayload row hrow]
    exact PushConfig.readText_writeText config
  have hmemory : Healthy memory := Memory.healthy_of_unique (by decide) (by decide)
  have hlimit : request.effectivePageSize db.maxPageSize + 1 ≤ Keyset.maxLimit := by decide
  obtain ⟨hlists, -, hcollections⟩ := fine_listing_ends db memory request hdb hmemory rfl
  exact ⟨hdb, hmemory, hlimit, hlists hlimit, hcollections⟩

end WebhookRegistry
