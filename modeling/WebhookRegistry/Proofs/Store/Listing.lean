/-
  Listing all configs of a task, page after page, while nobody writes.

  1. **One call** (`pageRecords_eq_ok_iff`, `answer_list_eq_ok`): a page is cut off the records that come
     after the cursor, and shows their configs.

  2. **All calls** (`listPages_complete`): induction on the records still to come. If they fit, the page
     has no token and the listing ends; else the page is full, its token names its last record, and the
     records after that one are exactly those left over.

  `Lists` says what comes out: pages that hold the configs one after another, all of them full but the
  last, which alone has no token.
-/
import WebhookRegistry.Proofs.Store.Database
import WebhookRegistry.Proofs.Store.Memory
import WebhookRegistry.Proofs.Store.Runs

namespace WebhookRegistry

open RecordStore

section

variable {σ π : Type} [Payload π] [ConfigStore σ] [RecordStore σ π] [LawfulStore σ π]
variable {store : σ} {request : ListRequest}

/-! ## One call -/

/-- **What a page holds**: the first records that its cursor has still to come. -/
theorem pageRecords_eq_ok_iff (h : Tidy store) {records : List (Record π)} {next : Option String} :
    pageRecords request store = .ok (records, next) ↔
      Takes request store ∧ ∃ cursor, PageToken.decode request.pageToken = .ok cursor ∧
        Keyset.cut Record.position (pageSize request store) (due request.id cursor store) =
          (records, next) := by
  rw [LawfulStore.pageRecords_eq request h, duePage_eq_pageOf]
  exact pageOf_eq_ok_iff

/-- **The token of a page leads to what it has left over.** -/
theorem RecordStore.Tidy.due_after (h : Tidy store) {taskId : String} {cursor : Option Cursor}
    {front rest : List (Record π)} {last : Record π}
    (hsplit : due taskId cursor store = front ++ last :: rest) :
    ∃ next, PageToken.decode (some last.position.token) = .ok (some next) ∧
      next.At last.position ∧ due taskId (some next) store = rest := by
  have hlast : last ∈ due taskId cursor store := by
    rw [hsplit]
    exact List.mem_append_right _ List.mem_cons_self
  obtain ⟨next, hdecode, hat⟩ := Position.decode_token (h.exact_of_mem (Keyset.mem_ordered.1 hlast).1)
  refine ⟨next, hdecode, hat, ?_⟩
  exact Keyset.ordered_after (LawfulStore.nodup_keys_recordsOf taskId h.unique) hsplit hat

/-- **What a page shows**: the configs of its records. -/
theorem answer_list_eq_ok {records : List (Record π)} {next : Option String}
    {configs : List PushConfig} (hrecords : pageRecords request store = .ok (records, next))
    (hconfigs : records.map Record.config = configs.map .ok) :
    (ConfigStore.list request store).answer = .ok (ConfigPage.of request configs next) := by
  rw [LawfulStore.answer_list, hrecords]
  unfold shown
  dsimp only
  rw [Record.readAll_eq_ok_iff.2 hconfigs]
  rfl

/-- The records of a page of a healthy store are read together. -/
theorem RecordStore.Healthy.exists_configs_of_cut (h : Healthy store) (taskId : String)
    (cursor : Option Cursor) (size : Nat) :
    ∃ configs : List PushConfig,
      (Keyset.cut Record.position size (due taskId cursor store)).1.map Record.config =
        configs.map .ok := by
  have hmem : ∀ record ∈ (Keyset.cut Record.position size (due taskId cursor store)).1,
      record ∈ recordsOf taskId store := by
    intro record hrecord
    exact (Keyset.mem_ordered.1 ((Keyset.cut_sublist _ _ _).subset hrecord)).1
  exact h.exists_configs hmem

/-- **A sound store answers** whoever asks with a token that can be read. -/
theorem RecordStore.Sound.exists_answer (h : Sound store) (htakes : Takes request store)
    {cursor : Option Cursor} (hcursor : PageToken.decode request.pageToken = .ok cursor) :
    ∃ page, (ConfigStore.list request store).answer = .ok page := by
  have hpage := (pageRecords_eq_ok_iff h.toTidy).2 ⟨htakes, cursor, hcursor, rfl⟩
  obtain ⟨configs, hconfigs⟩ := h.healthy.exists_configs_of_cut request.id cursor _
  exact ⟨_, answer_list_eq_ok hpage hconfigs⟩

/-! ## Page after page -/

omit [Payload π] [RecordStore σ π] [LawfulStore σ π] in
/-- A page without a token ends the listing. -/
theorem answer_listPages_of_last {page : ConfigPage} (bound : Nat)
    (hanswer : (ConfigStore.list request store).answer = .ok page) (hnext : page.nextPageToken = none) :
    (listPages (bound + 1) request store).answer = .ok [page] := by
  unfold listPages
  dsimp only
  rw [hanswer]
  dsimp only
  rw [hnext]

omit [Payload π] [RecordStore σ π] [LawfulStore σ π] in
/-- A page with a token goes before the pages that its token leads to. -/
theorem answer_listPages_of_more {page : ConfigPage} {token : String} {pages : List ConfigPage}
    (bound : Nat) (hanswer : (ConfigStore.list request store).answer = .ok page)
    (hnext : page.nextPageToken = some token)
    (hpages : (listPages bound { request with pageToken := some token }
      (ConfigStore.list request store).store).answer = .ok pages) :
    (listPages (bound + 1) request store).answer = .ok (page :: pages) := by
  unfold listPages
  dsimp only
  rw [hanswer]
  dsimp only
  rw [hnext]
  dsimp only
  rw [hpages]
  rfl

end

/-- Whether pages hold configs one after another, in pages of a size: all of them are full but the last,
    which alone has no token. -/
structure Lists (request : ListRequest) (size : Nat) (configs : List PushConfig)
    (pages : List ConfigPage) : Prop where
  length_eq : pages.length = max 1 ((configs.length + size - 1) / size)
  full : ∀ page ∈ pages.dropLast, page.configs.length = size ∧ page.nextPageToken.isSome
  last : ∀ page ∈ pages.getLast?, page.configs.length ≤ size ∧ page.nextPageToken = none
  configs_eq : pages.flatMap ConfigPage.configs =
    configs.map fun config => ⟨request.id, config, request.tenant⟩

/-- Configs that fit are listed on one page. -/
theorem Lists.single (request : ListRequest) {size : Nat} {configs : List PushConfig}
    (hsize : 1 ≤ size) (hfits : configs.length ≤ size) :
    Lists request size configs [ConfigPage.of request configs none] where
  length_eq := by
    have hle : (configs.length + size - 1) / size ≤ 1 := by
      rw [Nat.div_le_iff_le_mul_add_pred (by omega)]
      omega
    rw [List.length_singleton]
    omega
  full _ hpage := absurd hpage List.not_mem_nil
  last page hpage := by
    cases hpage
    exact ⟨by simpa [ConfigPage.of] using hfits, rfl⟩
  configs_eq := by simp [ConfigPage.of]

/-- A full page and the pages of the configs left over. -/
theorem Lists.cons {request : ListRequest} {size : Nat} {first rest : List PushConfig}
    {pages : List ConfigPage} {token : String} (hsize : 1 ≤ size) (hfirst : first.length = size)
    (hrest : rest ≠ []) (h : Lists { request with pageToken := some token } size rest pages) :
    Lists request size (first ++ rest) (ConfigPage.of request first (some token) :: pages) := by
  have hpos : 1 ≤ rest.length := List.length_pos_iff.2 hrest
  have hpages : pages ≠ [] := by
    rintro rfl
    have hlength := h.length_eq
    rw [List.length_nil] at hlength
    omega
  refine ⟨?_, fun page hpage => ?_, fun page hpage => ?_, ?_⟩
  · -- One page takes exactly a whole size off the quotient.
    have hceil : (first.length + rest.length + size - 1) / size =
        (rest.length + size - 1) / size + 1 := by
      rw [hfirst, show size + rest.length + size - 1 = rest.length + size - 1 + size by omega]
      exact Nat.add_div_right _ hsize
    have hone : 1 ≤ (rest.length + size - 1) / size := by
      rw [Nat.le_div_iff_mul_le hsize]
      omega
    rw [List.length_cons, List.length_append, h.length_eq, hceil]
    omega
  · rw [List.dropLast_cons_of_ne_nil hpages] at hpage
    rcases List.mem_cons.1 hpage with rfl | hmore
    · exact ⟨by simpa [ConfigPage.of] using hfirst, rfl⟩
    · exact h.full page hmore
  · rw [List.getLast?_cons_of_ne_nil hpages] at hpage
    exact h.last page hpage
  · rw [List.flatMap_cons, h.configs_eq, List.map_append]
    rfl

section

variable {σ π : Type} [Payload π] [ConfigStore σ] [RecordStore σ π] [LawfulStore σ π] {store : σ}

/-- **Following the tokens lists every config still to come**, with any bound that the pages fit in. -/
theorem listPages_complete (h : Sound store) {size : Nat} {request : ListRequest}
    {cursor : Option Cursor} {configs : List PushConfig} (htakes : Takes request store)
    (hsize : pageSize request store = size)
    (hcursor : PageToken.decode request.pageToken = .ok cursor)
    (hconfigs : (due request.id cursor store).map Record.config = configs.map .ok) :
    ∃ pages, Lists request size configs pages ∧
      ∀ bound, pages.length ≤ bound → (listPages bound request store).answer = .ok pages := by
  have hone : 1 ≤ size := hsize ▸ one_le_pageSize h.one_le_maxPageSize request
  -- Each page takes at least one record off those still to come.
  induction hn : configs.length using Nat.strongRecOn generalizing request cursor configs with
  | ind n ih =>
    subst hn
    rcases Keyset.cut_cases Record.position hone (due request.id cursor store) with
      ⟨hfits, hcut⟩ | ⟨front, last, rest, hsplit, hrest, hfull, hcut⟩
    · have hanswer := answer_list_eq_ok
        ((pageRecords_eq_ok_iff h.toTidy).2 ⟨htakes, cursor, hcursor, hsize ▸ hcut⟩) hconfigs
      have hlength : (due request.id cursor store).length = configs.length := by
        simpa using congrArg List.length hconfigs
      refine ⟨[ConfigPage.of request configs none], .single request hone (by omega), ?_⟩
      intro bound hbound
      obtain ⟨b, rfl⟩ := Nat.exists_eq_add_of_le hbound
      rw [Nat.add_comm]
      exact answer_listPages_of_last b hanswer rfl
    · have hpage := (pageRecords_eq_ok_iff h.toTidy).2 ⟨htakes, cursor, hcursor, hsize ▸ hcut⟩
      rw [hsplit, List.append_cons, List.map_append] at hconfigs
      obtain ⟨first, left, rfl, hfirst, hleft⟩ := List.append_eq_map_iff.1 hconfigs
      have hanswer := answer_list_eq_ok hpage hfirst.symm
      obtain ⟨next, hnext, -, hdue⟩ := h.due_after hsplit
      have hsizes : first.length = size := by
        have hlength := congrArg List.length hfirst
        simp only [List.length_map, List.length_append, List.length_singleton] at hlength
        omega
      have hleftNe : left ≠ [] := by
        rintro rfl
        exact hrest (List.map_eq_nil_iff.1 hleft.symm)
      -- What is left over is less, so the pages behind this one are known.
      have hrec : ∃ pages,
          Lists { request with pageToken := some (Record.position last).token } size left pages ∧
            ∀ bound, pages.length ≤ bound →
              (listPages bound { request with pageToken := some (Record.position last).token }
                store).answer = .ok pages :=
        ih left.length (by rw [List.length_append]; omega) htakes hsize hnext
          (by rw [hdue]; exact hleft.symm) rfl
      obtain ⟨pages, hpages, hlists⟩ := hrec
      refine ⟨_, hpages.cons hone hsizes hleftNe, fun bound hbound => ?_⟩
      rw [List.length_cons] at hbound
      obtain ⟨b, rfl⟩ := Nat.exists_eq_add_of_le' (Nat.le_of_add_left_le hbound)
      refine answer_listPages_of_more b hanswer rfl ?_
      rw [LawfulStore.store_list]
      exact hlists b (by omega)

/-- Whether following the tokens from a request on lists all the records of its task, each once and in
    order. -/
def ListsAll (request : ListRequest) (store : σ) : Prop :=
  ∃ (records : List (Record π)) (configs : List PushConfig) (pages : List ConfigPage),
    records.Perm (recordsOf request.id store) ∧ Keyset.InOrder Record.position records ∧
      records.map Record.config = configs.map .ok ∧
      Lists request (pageSize request store) configs pages ∧
      ∀ bound, pages.length ≤ bound → (listPages bound request store).answer = .ok pages

/-- From an empty token on everything is listed. -/
theorem listsAll_of_empty_token (h : Sound store) {request : ListRequest}
    (htakes : Takes request store) (htoken : request.pageToken.getD "" = "") :
    ListsAll request store := by
  have hperm : (due request.id none store).Perm (recordsOf request.id store) :=
    Keyset.ordered_none_perm _
  obtain ⟨configs, hconfigs⟩ := h.healthy.exists_configs fun record hrecord => hperm.mem_iff.1 hrecord
  have hcursor := PageToken.decode_of_empty htoken
  obtain ⟨pages, hpages, hlists⟩ := listPages_complete h htakes rfl hcursor hconfigs
  exact ⟨_, configs, pages, hperm, h.inOrder_due request.id none, hconfigs, hpages, hlists⟩

end

/-! ## Both stores -/

/-- **Nothing is lost and nothing comes twice**: in a sound store that nobody writes to, following the
    tokens from the first page on lists every config of the task once, newest first, on as few pages as
    hold them. The database must be able to take the limit of a query for one page. -/
theorem quiet_listing_complete (db : Database) (memory : Memory) (request : ListRequest)
    (hdb : Sound db) (hmemory : Sound memory) (htoken : request.pageToken.getD "" = "")
    (hlimit : request.effectivePageSize db.maxPageSize + 1 ≤ Keyset.maxLimit) :
    ListsAll request db ∧ ListsAll request memory := by
  have htakes : Takes request db := (Database.takes_iff hdb.one_le_maxPageSize).2 hlimit
  exact ⟨listsAll_of_empty_token hdb htakes htoken,
    listsAll_of_empty_token hmemory (Memory.takes request memory) htoken⟩

/-- Ids with colons and digits, a missing time that ties with the epoch and a time before it. -/
theorem quiet_listing_of_ties :
    let config : PushConfig := ⟨"https://example.org", none, none, none⟩
    let early : Instant := ⟨-1000, by decide, by decide⟩
    let db : Database :=
      ⟨2, [(⟨"t", "0:a"⟩, ⟨none, Schema.writeText config⟩),
        (⟨"t", ":"⟩, ⟨some .epoch, Schema.writeText config⟩),
        (⟨"t", "-1:0"⟩, ⟨some early, Schema.writeText config⟩),
        (⟨"u", "0:a"⟩, ⟨none, Schema.writeText config⟩)]⟩
    let memory : Memory :=
      ⟨2, [("t", [("0:a", ⟨none, config⟩), (":", ⟨some .epoch, config⟩),
        ("-1:0", ⟨some early, config⟩)])]⟩
    let request : ListRequest := ⟨"t", 0, some "", "tenant"⟩
    Sound db ∧ Sound memory ∧ request.effectivePageSize db.maxPageSize + 1 ≤ Keyset.maxLimit ∧
      ListsAll request db ∧ ListsAll request memory := by
  intro config early db memory request
  have hpayload : ∀ row ∈ db.table, row.2.payload = Schema.writeText config := by
    intro row hrow
    simp only [db, List.mem_cons, List.not_mem_nil, or_false] at hrow
    rcases hrow with rfl | rfl | rfl | rfl <;> rfl
  have hdb : Sound db := by
    refine Database.sound_of_rows (by decide) (by decide) (by decide) fun row hrow => ⟨config, ?_⟩
    show Schema.readText row.2.payload = .ok config
    rw [hpayload row hrow]
    exact PushConfig.readText_writeText config
  have hmemory : Sound memory := Memory.sound_of_entries (by decide) (by decide) (by decide)
  have hlimit : request.effectivePageSize db.maxPageSize + 1 ≤ Keyset.maxLimit := by decide
  exact ⟨hdb, hmemory, hlimit, quiet_listing_complete db memory request hdb hmemory rfl hlimit⟩

end WebhookRegistry
