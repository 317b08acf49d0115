/-
  Listing page after page while others write.

  A client follows the tokens; between two of its calls anybody performs any operations. The cursor of
  the client only moves forward, and a record stays where it is as long as its key is not deleted. So a
  record that is there all the time is passed by the cursor exactly once, and is on the page that passes
  it:

  1. **One call**: the page ends the listing and holds all that its cursor has still to come
     (`Call.Answered.records_of_last`), or its token names its last record, and it holds just those before
     that place or at it (`Call.Answered.records_of_more`).

  2. **The run** (`Traversal.follows`, `Traversal.count_ids`): by induction over the calls, every record
     still to be shown comes after the cursor, and a key that stays present is shown once if its place
     comes after the cursor and never if it does not.

  A key that is shown twice has therefore changed its place, and only a key that was deleted and set
  again does so (`Traversal.rewritten`).
-/
import WebhookRegistry.Proofs.Store.Holdings
import WebhookRegistry.Proofs.Store.Listing

namespace WebhookRegistry

open RecordStore

/-! ## Calls and traversals -/

/-- A call of a client that lists page after page: the store that it met, what it asked for, the records
    and the page that it got, and what happened to the store until the next call. -/
structure Call (σ π : Type) where
  store : σ
  request : ListRequest
  records : List (Record π)
  page : ConfigPage
  meanwhile : History

section

variable {σ π : Type}

/-- The config ids on the page of a call. -/
def Call.ids (call : Call σ π) : List String := call.records.map Prod.fst

/-- The store that the next call meets. -/
def Call.after [ConfigStore σ] (call : Call σ π) : σ :=
  storeAfter call.meanwhile (ConfigStore.list call.request call.store).store

/-- Whether a call is answered by its page, made of its records. -/
structure Call.Answered [ConfigStore σ] [RecordStore σ π] (call : Call σ π) : Prop where
  answer : (ConfigStore.list call.request call.store).answer = .ok call.page
  records : pageRecords call.request call.store = .ok (call.records, call.page.nextPageToken)

/-- The calls of a client that follows the tokens of a task until there is none, from a token and a store
    on. Its page size and tenant may change from call to call. -/
inductive Traversal [ConfigStore σ] [RecordStore σ π] (taskId : String) :
    Option String → σ → List (Call σ π) → Prop
  | last {call : Call σ π} : call.Answered → call.request.id = taskId →
      call.page.nextPageToken = none → call.meanwhile = [] →
      Traversal taskId call.request.pageToken call.store [call]
  | more {call : Call σ π} {token : String} {calls : List (Call σ π)} : call.Answered →
      call.request.id = taskId → call.page.nextPageToken = some token →
      Traversal taskId (some token) call.after calls →
      Traversal taskId call.request.pageToken call.store (call :: calls)

/-- Whether there is a record under a key all the time from the first call to the last one. -/
def Present [RecordStore σ π] [ConfigStore σ] (key : ConfigKey) (calls : List (Call σ π)) : Prop :=
  ∀ call ∈ calls, ∀ done left, call.meanwhile = done ++ left →
    (get? key (storeAfter done call.store)).isSome

end

/-- Whether an operation sets a key. -/
def Operation.Sets (key : ConfigKey) : Operation → Prop
  | .set taskId config => StandsFor taskId config.id key
  | _ => False

/-- Whether a history deletes a key and sets it again. -/
def Rewrites (key : ConfigKey) (history : History) : Prop :=
  ∃ before delete between set after, history = before ++ delete :: (between ++ set :: after) ∧
    delete.2.Deletes key ∧ set.2.Sets key

/-- What a client is promised that follows the tokens of a task to the end. -/
structure Faithful {σ π : Type} [Payload π] [ConfigStore σ] [RecordStore σ π] (taskId : String)
    (calls : List (Call σ π)) : Prop where
  /-- A page shows what is stored at that moment, and no key twice. -/
  shown : ∀ call ∈ calls, call.ids.Nodup ∧
    (∀ record ∈ call.records, get? ⟨taskId, record.1⟩ call.store = some record.2) ∧
    call.records.map Record.config = call.page.configs.map fun listed => .ok listed.config
  /-- A key that is present all the time is returned exactly once. -/
  once : ∀ id, Present ⟨taskId, id⟩ calls → (calls.flatMap Call.ids).count id = 1
  /-- A key that is returned by two calls was deleted and set again between them. -/
  rewritten : ∀ before first between second after id,
    calls = before ++ first :: (between ++ second :: after) → id ∈ first.ids → id ∈ second.ids →
      Rewrites ⟨taskId, id⟩ ((first :: between).flatMap Call.meanwhile)

/-- Whether a client that follows tokens is always answered: on its first call, and on each call with the
    token of an earlier page, whatever was done to the store before and in between. -/
structure NeverRefused {σ π : Type} [ConfigStore σ] [RecordStore σ π] (store : σ) : Prop where
  first : ∀ request, request.pageToken.getD "" = "" → Takes request store →
    ∃ page, (ConfigStore.list request store).answer = .ok page
  next : ∀ before, ∀ call : Call σ π, call.store = storeAfter before store → call.Answered →
    ∀ token, call.page.nextPageToken = some token →
      ∀ request, request.pageToken = some token → Takes request call.after →
        ∃ page, (ConfigStore.list request call.after).answer = .ok page

section

variable {σ π : Type} [Payload π] [ConfigStore σ] [RecordStore σ π] [LawfulStore σ π]
variable {taskId id : String} {call : Call σ π} {cursor : Option Cursor}

/-! ## One call -/

theorem Call.after_eq (call : Call σ π) : call.after = storeAfter call.meanwhile call.store := by
  unfold after
  rw [LawfulStore.store_list]

/-- **A call cuts its page off what its cursor has still to come.** -/
theorem Call.Answered.cut_due (ha : call.Answered) (h : Tidy call.store)
    (hcursor : PageToken.decode call.request.pageToken = .ok cursor) :
    Keyset.cut Record.position (pageSize call.request call.store)
      (due call.request.id cursor call.store) = (call.records, call.page.nextPageToken) := by
  obtain ⟨-, c, hc, hcut⟩ := (pageRecords_eq_ok_iff h).1 ha.records
  rw [hcursor] at hc
  cases hc
  exact hcut

/-- The token that an answered call was made with can be read. -/
theorem Call.Answered.exists_cursor (ha : call.Answered) (h : Tidy call.store) :
    ∃ cursor, PageToken.decode call.request.pageToken = .ok cursor := by
  obtain ⟨-, cursor, hcursor, -⟩ := (pageRecords_eq_ok_iff h).1 ha.records
  exact ⟨cursor, hcursor⟩

theorem Call.Answered.sublist_due (ha : call.Answered) (h : Tidy call.store)
    (hcursor : PageToken.decode call.request.pageToken = .ok cursor) :
    call.records.Sublist (due call.request.id cursor call.store) := by
  have hsub := Keyset.cut_sublist Record.position (pageSize call.request call.store)
    (due call.request.id cursor call.store)
  rwa [ha.cut_due h hcursor] at hsub

/-- **No page shows a key twice.** -/
theorem Call.Answered.nodup_ids (ha : call.Answered) (h : Tidy call.store)
    (hcursor : PageToken.decode call.request.pageToken = .ok cursor) : call.ids.Nodup := by
  have hdue : ((due call.request.id cursor call.store).map fun record => record.position.id).Nodup :=
    Keyset.nodup_ids_ordered (LawfulStore.nodup_keys_recordsOf call.request.id h.unique)
  exact hdue.sublist ((ha.sublist_due h hcursor).map _)

/-- A page without a token holds all that its cursor has still to come. -/
theorem Call.Answered.records_of_last (ha : call.Answered) (h : Tidy call.store)
    (hcursor : PageToken.decode call.request.pageToken = .ok cursor)
    (hnext : call.page.nextPageToken = none) :
    call.records = due call.request.id cursor call.store := by
  have hcut := ha.cut_due h hcursor
  rw [hnext] at hcut
  rcases Keyset.cut_cases Record.position (one_le_pageSize h.one_le_maxPageSize call.request)
    (due call.request.id cursor call.store) with
    ⟨-, hall⟩ | ⟨front, last, rest, -, -, -, hpage⟩
  · rw [hall] at hcut
    exact (congrArg Prod.fst hcut).symm
  · rw [hpage] at hcut
    cases congrArg Prod.snd hcut

/-- **A token names the last record of its page**, and the page holds what does not come after it. -/
theorem Call.Answered.records_of_more (ha : call.Answered) (h : Tidy call.store)
    (hcursor : PageToken.decode call.request.pageToken = .ok cursor) {token : String}
    (hnext : call.page.nextPageToken = some token) :
    ∃ last next, PageToken.decode (some token) = .ok (some next) ∧ next.At last ∧
      last.follows cursor = true ∧
      ∀ record, record ∈ call.records ↔
        record ∈ due call.request.id cursor call.store ∧ ¬ last.Before record.position := by
  have hcut := ha.cut_due h hcursor
  rw [hnext] at hcut
  rcases Keyset.cut_cases Record.position (one_le_pageSize h.one_le_maxPageSize call.request)
    (due call.request.id cursor call.store) with
    ⟨-, hall⟩ | ⟨front, last, rest, hsplit, -, -, hpage⟩
  · rw [hall] at hcut
    cases congrArg Prod.snd hcut
  · rw [hpage] at hcut
    have hdue : last ∈ due call.request.id cursor call.store := by
      rw [hsplit]
      exact List.mem_append_right _ List.mem_cons_self
    obtain ⟨next, hdecode, hat, -⟩ := h.due_after hsplit
    have htoken : last.position.token = token := Option.some.inj (congrArg Prod.snd hcut)
    have horder := h.inOrder_due call.request.id cursor
    rw [htoken] at hdecode
    refine ⟨last.position, next, hdecode, hat, ((mem_due_iff h).1 hdue).2, fun record => ?_⟩
    rw [hsplit] at horder ⊢
    rw [← show front ++ [last] = call.records from congrArg Prod.fst hcut]
    exact Keyset.mem_page_iff horder

/-- **A page shows what is stored** at that moment. -/
theorem Call.Answered.stored (ha : call.Answered) (h : Tidy call.store) :
    ∀ record ∈ call.records, get? ⟨call.request.id, record.1⟩ call.store = some record.2 := by
  intro record hrecord
  obtain ⟨cursor, hcursor⟩ := ha.exists_cursor h
  exact ((mem_due_iff h).1 ((ha.sublist_due h hcursor).subset hrecord)).1

/-- The configs on a page are those of its records. -/
theorem Call.Answered.configs_eq (ha : call.Answered) :
    call.records.map Record.config = call.page.configs.map fun listed => .ok listed.config := by
  have hanswer := ha.answer
  rw [LawfulStore.answer_list, ha.records] at hanswer
  unfold shown at hanswer
  dsimp only at hanswer
  cases hread : Record.readAll call.request.id call.records with
  | error failure =>
    rw [hread] at hanswer
    cases hanswer
  | ok configs =>
    rw [hread] at hanswer
    rw [← Except.ok.inj hanswer, Record.readAll_eq_ok_iff.1 hread]
    show configs.map Except.ok = (configs.map _).map _
    rw [List.map_map]
    rfl

/-- A key is on a page exactly if its record is. -/
theorem Call.Answered.mem_ids_iff (ha : call.Answered) (h : Tidy call.store) {record : Stored π}
    (hrecord : get? ⟨call.request.id, id⟩ call.store = some record) :
    id ∈ call.ids ↔ (id, record) ∈ call.records := by
  constructor
  · intro hid
    obtain ⟨⟨i, r⟩, hr, rfl⟩ := List.mem_map.1 hid
    have heq : r = record := Option.some.inj ((ha.stored h _ hr).symm.trans hrecord)
    rwa [← heq]
  · exact fun hmem => List.mem_map.2 ⟨_, hmem, rfl⟩

/-! ## The run -/

theorem Call.tidy_after (h : Tidy call.store) : Tidy call.after := by
  rw [call.after_eq]
  exact h.run call.meanwhile

/-- **The cursor only moves forward**: whatever is returned from a token on comes after its cursor. -/
theorem Traversal.follows {token : Option String} {store : σ} {calls : List (Call σ π)}
    (ht : Traversal taskId token store calls) (h : Tidy store)
    (hcursor : PageToken.decode token = .ok cursor) :
    ∀ call ∈ calls, ∀ record ∈ call.records, record.position.follows cursor = true := by
  induction ht generalizing cursor with
  | last ha _ _ _ =>
    intro call hcall record hrecord
    rw [List.mem_singleton.1 hcall] at hrecord
    exact ((mem_due_iff h).1 ((ha.sublist_due h hcursor).subset hrecord)).2
  | more ha _ hnext _ ih =>
    intro call hcall record hrecord
    rcases List.mem_cons.1 hcall with rfl | hrest
    · exact ((mem_due_iff h).1 ((ha.sublist_due h hcursor).subset hrecord)).2
    · -- The later calls start after the last record of this page, which itself follows the cursor.
      obtain ⟨last, next, hdecode, hat, hlast, -⟩ := ha.records_of_more h hcursor hnext
      have hafter := ih (Call.tidy_after h) hdecode call hrest record hrecord
      exact Position.follows_of_before hlast ((Position.follows_iff_of_at hat).1 hafter)

/-- A key that stays present is not deleted. -/
theorem neverDeleted_of_present {key : ConfigKey} {store : σ} {history : History}
    (h : ∀ done left, history = done ++ left → (get? key (storeAfter done store)).isSome) :
    NeverDeleted key history := by
  rintro ⟨clock, operation⟩ hentry hdelete
  obtain ⟨done, left, rfl⟩ := List.append_of_mem hentry
  have hpresent := h (done ++ [(clock, operation)]) left (by simp)
  cases operation with
  | set => exact hdelete
  | list => exact hdelete
  | delete taskId configId =>
    rw [storeAfter_append, storeAfter_cons, storeAfter_nil, get?_perform,
      Operation.effect_delete _ _ hdelete] at hpresent
    cases hpresent

/-- **A key that stays present is returned once** if its place comes after the cursor, and never if it
    does not. -/
theorem Traversal.count_ids {token : Option String} {store : σ} {calls : List (Call σ π)}
    (ht : Traversal taskId token store calls) (h : Tidy store)
    (hcursor : PageToken.decode token = .ok cursor) (hpresent : Present ⟨taskId, id⟩ calls)
    {record : Stored π} (hrecord : get? ⟨taskId, id⟩ store = some record) :
    (calls.flatMap Call.ids).count id =
      if (Record.position (id, record)).follows cursor = true then 1 else 0 := by
  induction ht generalizing cursor record with
  | @last call ha hid hnext _ =>
    -- No call comes after this one, and its page holds everything that follows the cursor.
    subst hid
    have hmem : id ∈ call.ids ↔ (Record.position (id, record)).follows cursor = true := by
      rw [ha.mem_ids_iff h hrecord, ha.records_of_last h hcursor hnext, mem_due_iff h]
      exact and_iff_right hrecord
    rw [List.flatMap_singleton, (ha.nodup_ids h hcursor).count]
    simp only [hmem]
  | @more call token calls ha hid hnext _ ih =>
    subst hid
    obtain ⟨last, next, hdecode, hat, hlast, hrecords⟩ := ha.records_of_more h hcursor hnext
    have hmem : id ∈ call.ids ↔ (Record.position (id, record)).follows cursor = true ∧
        ¬ last.Before (Record.position (id, record)) := by
      rw [ha.mem_ids_iff h hrecord, hrecords, mem_due_iff h]
      exact and_congr_left fun _ => and_iff_right hrecord
    -- The record stays at its place until the next call.
    obtain ⟨payload, hafter⟩ := createdAt_of_neverDeleted hrecord
      (neverDeleted_of_present (hpresent call List.mem_cons_self))
    rw [← call.after_eq] at hafter
    have hcount := ih (Call.tidy_after h) hdecode
      (fun c hc => hpresent c (List.mem_cons_of_mem _ hc)) hafter
    rw [List.flatMap_cons, List.count_append, hcount, (ha.nodup_ids h hcursor).count]
    simp only [hmem, Position.follows_iff_of_at hat]
    show _ + (if last.Before (Record.position (id, record)) then 1 else 0) = _
    -- Behind the last record of the page it is shown later, else now if it follows the cursor.
    by_cases hbefore : last.Before (Record.position (id, record))
    · have hfollows := Position.follows_of_before hlast hbefore
      simp [hbefore, hfollows]
    · simp [hbefore]

/-! ## What a traversal returns -/

omit [Payload π] [LawfulStore σ π] in
/-- The first call of a traversal meets its store with its token. -/
theorem Traversal.head {token : Option String} {store : σ} {calls : List (Call σ π)}
    (ht : Traversal taskId token store (call :: calls)) :
    token = call.request.pageToken ∧ store = call.store ∧ call.request.id = taskId ∧ call.Answered := by
  cases ht with
  | last ha hid _ _ => exact ⟨rfl, rfl, hid, ha⟩
  | more ha hid _ _ => exact ⟨rfl, rfl, hid, ha⟩

omit [Payload π] [LawfulStore σ π] in
/-- What comes after a call is a traversal from its token on. -/
theorem Traversal.tail {token : Option String} {store : σ} {calls : List (Call σ π)}
    (ht : Traversal taskId token store (call :: calls)) (hne : calls ≠ []) :
    ∃ next, call.page.nextPageToken = some next ∧ Traversal taskId (some next) call.after calls := by
  cases ht with
  | last => exact absurd rfl hne
  | more _ _ hnext hmore => exact ⟨_, hnext, hmore⟩

/-- **From any call on a traversal is one**; its store has come about by what happened meanwhile. -/
theorem Traversal.drop {token : Option String} {store : σ} {before rest : List (Call σ π)}
    (ht : Traversal taskId token store (before ++ call :: rest)) :
    Traversal taskId call.request.pageToken call.store (call :: rest) ∧
      call.store = storeAfter (before.flatMap Call.meanwhile) store := by
  induction before generalizing token store with
  | nil =>
    obtain ⟨rfl, rfl, -, -⟩ := ht.head
    exact ⟨ht, rfl⟩
  | cons first before ih =>
    obtain ⟨-, rfl, -, -⟩ := Traversal.head ht
    obtain ⟨next, -, hmore⟩ := Traversal.tail ht (by simp)
    obtain ⟨hcalls, hstore⟩ := ih hmore
    refine ⟨hcalls, ?_⟩
    rw [hstore, first.after_eq, List.flatMap_cons, storeAfter_append]

/-- Only a key that is deleted and set again changes its creation time. -/
theorem rewrites_of_createdAt_ne {key : ConfigKey} {store : σ} {history : History}
    {old new : Stored π} (hold : get? key store = some old)
    (hnew : get? key (storeAfter history store) = some new) (hne : new.createdAt ≠ old.createdAt) :
    Rewrites key history := by
  have hleaves := leaves_run key store history
  rw [hold, hnew] at hleaves
  generalize htime : new.createdAt = createdAt at hne
  have hborn := hleaves.born
  rw [htime] at hborn
  cases hborn with
  | original hstart hnever =>
    cases hstart
    exact absurd rfl hne
  | @first clock taskId config _ after hgone hset _ =>
    cases hgone with
    | never hstart => cases hstart
    | @deleted clock' taskId' configId before between hdelete _ =>
      refine ⟨before, (clock', .delete taskId' configId), between, (clock, .set taskId config), after,
        ?_, hdelete, hset⟩
      rw [List.append_assoc, List.cons_append]

/-- **A key that is returned by two calls** was deleted and set again between them. -/
theorem Traversal.rewritten {token : Option String} {store : σ} {first second : Call σ π}
    {before between after : List (Call σ π)}
    (ht : Traversal taskId token store (before ++ first :: (between ++ second :: after)))
    (h : Tidy store) (hfirst : id ∈ first.ids) (hsecond : id ∈ second.ids) :
    Rewrites ⟨taskId, id⟩ ((first :: between).flatMap Call.meanwhile) := by
  obtain ⟨hcalls, hstore⟩ := ht.drop
  have htidy : Tidy first.store := hstore ▸ h.run _
  obtain ⟨hlater, hlaterStore⟩ :=
    (show Traversal taskId _ first.store ((first :: between) ++ second :: after) from hcalls).drop
  have htidyLater : Tidy second.store := hlaterStore ▸ htidy.run _
  obtain ⟨-, -, hid, ha⟩ := hcalls.head
  obtain ⟨-, -, hidLater, haLater⟩ := hlater.head
  obtain ⟨⟨i, old⟩, hold, rfl⟩ := List.mem_map.1 hfirst
  obtain ⟨⟨j, new⟩, hnew, hj⟩ := List.mem_map.1 hsecond
  cases (show j = i from hj)
  have hgetOld := ha.stored htidy _ hold
  have hgetNew := haLater.stored htidyLater _ hnew
  rw [hid] at hgetOld
  rw [hidLater, hlaterStore] at hgetNew
  refine rewrites_of_createdAt_ne hgetOld hgetNew fun htime => ?_
  -- At the same place the record would come after the last one of the first page, and not after it.
  obtain ⟨cursor, hcursor⟩ := ha.exists_cursor htidy
  obtain ⟨token', hnext, hmore⟩ := hcalls.tail (by simp)
  obtain ⟨last, next, hdecode, hat, -, hrecords⟩ := ha.records_of_more htidy hcursor hnext
  have hfollows := hmore.follows (Call.tidy_after htidy) hdecode second
    (List.mem_append_right _ List.mem_cons_self) _ hnew
  have hplace : Record.position (i, new) = Record.position (i, old) :=
    congrArg (Position.mk · i) htime
  rw [Position.follows_iff_of_at hat, hplace] at hfollows
  exact ((hrecords _).1 hold).2 hfollows

/-- **What a client is promised** holds of every traversal of a tidy store from its first page on. -/
theorem Traversal.faithful {token : Option String} {store : σ} {calls : List (Call σ π)}
    (ht : Traversal taskId token store calls) (h : Tidy store) (htoken : token.getD "" = "") :
    Faithful taskId calls where
  shown call hcall := by
    obtain ⟨before, rest, rfl⟩ := List.append_of_mem hcall
    obtain ⟨hcalls, hstore⟩ := ht.drop
    have htidy : Tidy call.store := hstore ▸ h.run _
    obtain ⟨-, -, rfl, ha⟩ := hcalls.head
    obtain ⟨cursor, hcursor⟩ := ha.exists_cursor htidy
    exact ⟨ha.nodup_ids htidy hcursor, ha.stored htidy, ha.configs_eq⟩
  once id hpresent := by
    have hstart : (get? ⟨taskId, id⟩ store).isSome := by
      cases calls with
      | nil => cases ht
      | cons call calls =>
        obtain ⟨-, rfl, -, -⟩ := ht.head
        exact hpresent call List.mem_cons_self [] call.meanwhile rfl
    obtain ⟨record, hrecord⟩ := Option.isSome_iff_exists.1 hstart
    exact ht.count_ids h (PageToken.decode_of_empty htoken) hpresent hrecord
  rewritten before first between second after id hcalls hfirst hsecond := by
    subst hcalls
    exact ht.rewritten h hfirst hsecond

/-- **No call of a client is refused** in a sound store. -/
theorem neverRefused_of_sound {store : σ} (h : Sound store) : NeverRefused store where
  first request htoken htakes := h.exists_answer htakes (PageToken.decode_of_empty htoken)
  next before call hstore ha token hnext request htoken htakes := by
    have hsound : Sound call.store := hstore ▸ h.run before
    obtain ⟨cursor, hcursor⟩ := ha.exists_cursor hsound.toTidy
    obtain ⟨-, next, hdecode, -⟩ := ha.records_of_more hsound.toTidy hcursor hnext
    have hafter : Sound call.after := by
      rw [call.after_eq]
      exact hsound.run call.meanwhile
    exact hafter.exists_answer htakes (htoken ▸ hdecode)

end

/-! ## Both stores -/

/-- **Listing while others write**: whatever happens between the calls of a client, no call is refused,
    and when it has followed the tokens to the end every key that was there all the time has been returned
    exactly once, and no key twice that was not deleted and set again in between. -/
theorem traversals_faithful (db : Database) (memory : Memory) (taskId : String)
    (token : Option String) (hdb : Sound db) (hmemory : Sound memory) (htoken : token.getD "" = "") :
    (NeverRefused db ∧ ∀ calls, Traversal taskId token db calls → Faithful taskId calls) ∧
      (NeverRefused memory ∧ ∀ calls, Traversal taskId token memory calls → Faithful taskId calls) :=
  ⟨⟨neverRefused_of_sound hdb, fun _ ht => ht.faithful hdb.toTidy htoken⟩,
    ⟨neverRefused_of_sound hmemory, fun _ ht => ht.faithful hmemory.toTidy htoken⟩⟩

/-- The config of the first page is deleted and set again at an earlier time, the other one is updated
    meanwhile: the first is returned again, the other one once. -/
theorem traversal_of_rewritten_config :
    let config : PushConfig := ⟨"https://example.org", some "a", none, none⟩
    let early : Instant := ⟨-1500, by decide, by decide⟩
    let db : Database := ⟨1, [(⟨"t", "a"⟩, ⟨none, Schema.writeText config⟩)]⟩
    let memory : Memory :=
      ⟨1, [("t", [("a", ⟨none, config⟩), ("b", ⟨some .epoch, { config with id := some "b" }⟩)])]⟩
    let first : Call Memory PushConfig :=
      ⟨memory, ⟨"t", 1, none, ""⟩, [("a", ⟨none, config⟩)], ⟨[⟨"t", config, ""⟩], some "0:a"⟩,
        [(early, .delete "t" (some "a")), (early, .set "t" config),
          (early, .set "t" { config with id := some "b", token := some "x" })]⟩
    let second : Call Memory PushConfig :=
      ⟨first.after, ⟨"t", 0, some "0:a", ""⟩,
        [("b", ⟨some .epoch, { config with id := some "b", token := some "x" }⟩)],
        ⟨[⟨"t", { config with id := some "b", token := some "x" }, ""⟩], some "0:b"⟩, []⟩
    let third : Call Memory PushConfig :=
      ⟨second.after, ⟨"t", 7, some "0:b", ""⟩, [("a", ⟨some early.floorMillis, config⟩)],
        ⟨[⟨"t", config, ""⟩], none⟩, []⟩
    Sound db ∧ Sound memory ∧ Traversal "t" none memory [first, second, third] ∧
      Faithful "t" [first, second, third] := by
  intro config early db memory first second third
  have hdb : Sound db := by
    refine Database.sound_of_rows (by decide) (by decide) (by decide) fun row hrow => ⟨config, ?_⟩
    rw [List.mem_singleton.1 hrow]
    exact PushConfig.readText_writeText config
  have hmemory : Sound memory := Memory.sound_of_entries (by decide) (by decide) (by decide)
  -- Each collection lies in the order of its listing, so the pages can be read off.
  have hfirstPage : memory.pageEntries first.request = .ok (first.records, some "0:a") := by
    dsimp only [first, memory, config]
    exact (Memory.pageEntries_of_sorted rfl rfl (by decide)).trans rfl
  have hsecondPage : first.after.pageEntries second.request = .ok (second.records, some "0:b") := by
    dsimp only [second, first, memory, config, early]
    exact (Memory.pageEntries_of_sorted rfl rfl (by decide)).trans rfl
  have hthirdPage : second.after.pageEntries third.request = .ok (third.records, none) := by
    dsimp only [third, second, first, memory, config, early]
    exact (Memory.pageEntries_of_sorted rfl rfl (by decide)).trans rfl
  have hfirst : first.Answered :=
    ⟨answer_list_eq_ok hfirstPage (show _ = [config].map Except.ok from rfl), hfirstPage⟩
  have hsecond : second.Answered :=
    ⟨answer_list_eq_ok hsecondPage
      (show _ = [{ config with id := some "b", token := some "x" }].map Except.ok from rfl),
      hsecondPage⟩
  have hthird : third.Answered :=
    ⟨answer_list_eq_ok hthirdPage (show _ = [config].map Except.ok from rfl), hthirdPage⟩
  have htraversal : Traversal "t" none memory [first, second, third] :=
    .more hfirst rfl rfl (.more hsecond rfl rfl (.last hthird rfl rfl rfl))
  exact ⟨hdb, hmemory, htraversal,
    (traversals_faithful db memory "t" none hdb hmemory rfl).2.2 _ htraversal⟩

end WebhookRegistry
