/-
  Stores that cannot be told apart.

  What a client can learn of a record is its creation time and what its payload says (`Stored.told`). Two
  tidy stores are `Alike` if they have one page size and tell the same under every key, however they keep
  it. Then they answer alike and stay alike:

  1. **One page** (`due_told`): what a cursor has still to come is strictly ordered, and a strictly
     ordered list is determined by its members; so both stores have the same records to come, in one
     order.

  2. **One step** (`perform_alike`) and **every run** (`run_alike`), by induction over the history.
-/
import WebhookRegistry.Proofs.Store.Database
import WebhookRegistry.Proofs.Store.Listing
import WebhookRegistry.Proofs.Store.Memory

namespace WebhookRegistry

open RecordStore

/-! ## What a record tells -/

/-- A creation time with what a payload says. -/
abbrev Told := Option Instant × Except Schema.Invalid PushConfig

/-- What a stored record tells. -/
def Stored.told {π : Type} [Payload π] (record : Stored π) : Told :=
  (record.createdAt, Payload.read record.payload)

namespace Record

variable {π ρ : Type} [Payload π] [Payload ρ]

/-- What a record tells, with its id. -/
def told (record : Record π) : String × Told := (record.1, record.2.told)

/-- The place of what is told. -/
def toldPosition (told : String × Told) : Position := ⟨told.2.1, told.1⟩

theorem toldPosition_told (record : Record π) : toldPosition record.told = record.position := rfl

/-- **Records that tell the same are read alike**, up to the same failure. -/
theorem readAll_congr (taskId : String) {xs : List (Record π)} {ys : List (Record ρ)}
    (h : xs.map told = ys.map told) : readAll taskId xs = readAll taskId ys := by
  induction xs generalizing ys with
  | nil => rw [List.map_eq_nil_iff.1 h.symm]; rfl
  | cons x xs ih =>
    cases ys with
    | nil => cases h
    | cons y ys =>
      obtain ⟨hhead, htail⟩ := List.cons.inj h
      have hid : x.1 = y.1 := congrArg Prod.fst hhead
      have hconfig : x.config = y.config := congrArg (fun t : String × Told => t.2.2) hhead
      rw [readAll, readAll, hid, hconfig, ih htail]

end Record

/-- An operation does alike to records that tell the same. -/
theorem Operation.effect_told {π ρ : Type} [Payload π] [Payload ρ] (clock : Instant)
    (operation : Operation) (key : ConfigKey) {a : Option (Stored π)} {b : Option (Stored ρ)}
    (h : a.map Stored.told = b.map Stored.told) :
    (operation.effect clock key a).map Stored.told =
      (operation.effect clock key b).map Stored.told := by
  cases operation with
  | list request => exact h
  | delete taskId configId =>
    unfold effect
    dsimp only
    split
    · rfl
    · exact h
  | set taskId config =>
    unfold effect
    dsimp only
    split
    · cases a with
      | none =>
        cases b with
        | none => simp [Stored.renew, Stored.told, Payload.read_write]
        | some y => cases h
      | some x =>
        cases b with
        | none => cases h
        | some y =>
          have htime : x.createdAt = y.createdAt := congrArg Prod.fst (Option.some.inj h)
          simp [Stored.renew, Stored.told, Payload.read_write, htime]
    · exact h

/-! ## Stores that are alike -/

section

variable {σ π τ ρ : Type}
variable [Payload π] [ConfigStore σ] [RecordStore σ π] [LawfulStore σ π]
variable [Payload ρ] [ConfigStore τ] [RecordStore τ ρ] [LawfulStore τ ρ]

/-- Whether two stores have one page size and tell the same under every key. -/
structure Alike (s : σ) (t : τ) : Prop where
  left : Tidy s
  right : Tidy t
  maxPageSize_eq : maxPageSize s = maxPageSize t
  told_eq : ∀ key, (get? key s).map Stored.told = (get? key t).map Stored.told

omit [ConfigStore τ] [RecordStore τ ρ] [LawfulStore τ ρ] [Payload ρ] in
/-- What is told of the records still to come. -/
theorem mem_due_told {s : σ} (h : Tidy s) {taskId : String} {cursor : Option Cursor}
    {told : String × Told} :
    told ∈ (due taskId cursor s).map Record.told ↔
      (get? ⟨taskId, told.1⟩ s).map Stored.told = some told.2 ∧
        (Record.toldPosition told).follows cursor = true := by
  constructor
  · intro hmem
    obtain ⟨record, hrecord, rfl⟩ := List.mem_map.1 hmem
    obtain ⟨hget, hfollows⟩ := (mem_due_iff h).1 hrecord
    refine ⟨?_, hfollows⟩
    show (get? ⟨taskId, record.1⟩ s).map Stored.told = some record.2.told
    rw [hget]
    rfl
  · rintro ⟨htold, hfollows⟩
    obtain ⟨stored, hget, heq⟩ := Option.map_eq_some_iff.1 htold
    have hrecord : Record.told (told.1, stored) = told := congrArg (Prod.mk told.1) heq
    refine List.mem_map.2 ⟨(told.1, stored), (mem_due_iff h).2 ⟨hget, ?_⟩, hrecord⟩
    rw [← Record.toldPosition_told, hrecord]
    exact hfollows

/-- **Both stores have the same records to come**, in one order. -/
theorem due_told {s : σ} {t : τ} (h : Alike s t) (taskId : String) (cursor : Option Cursor) :
    (due taskId cursor s).map Record.told = (due taskId cursor t).map Record.told := by
  have hs : Keyset.InOrder Record.toldPosition ((due taskId cursor s).map Record.told) :=
    (h.left.inOrder_due taskId cursor).map Record.toldPosition_told
  have ht : Keyset.InOrder Record.toldPosition ((due taskId cursor t).map Record.told) :=
    (h.right.inOrder_due taskId cursor).map Record.toldPosition_told
  refine Keyset.eq_of_inOrder hs ht fun told => ?_
  rw [mem_due_told h.left, mem_due_told h.right, h.told_eq]

/-- **Stores that are alike list alike**, if both can make the page. -/
theorem answer_list_alike {s : σ} {t : τ} (h : Alike s t) (request : ListRequest)
    (hs : Takes request s) (ht : Takes request t) :
    (ConfigStore.list request s).answer = (ConfigStore.list request t).answer := by
  rw [LawfulStore.answer_list, LawfulStore.answer_list, LawfulStore.pageRecords_eq request h.left,
    LawfulStore.pageRecords_eq request h.right]
  unfold Takes at hs ht
  unfold duePage
  cases PageToken.decode request.pageToken with
  | error fault => rfl
  | ok cursor =>
    have hsize : pageSize request s = pageSize request t := by
      unfold pageSize
      rw [h.maxPageSize_eq]
    have hcut := congrArg (Keyset.cut Record.toldPosition (pageSize request s))
      (due_told h request.id cursor)
    rw [Keyset.cut_map Record.toldPosition_told, Keyset.cut_map Record.toldPosition_told, hsize]
      at hcut
    obtain ⟨hrecords, hnext⟩ := Prod.mk.inj hcut
    dsimp only
    rw [hs, ht, hsize]
    unfold shown
    dsimp only
    rw [Record.readAll_congr request.id hrecords, hnext]

/-! ## Runs -/

/-- **One step**: stores that are alike answer alike and stay alike. -/
theorem perform_alike {s : σ} {t : τ} (h : Alike s t) (hs : ∀ request, Takes request s)
    (ht : ∀ request, Takes request t) (clock : Instant) (operation : Operation) :
    (perform clock operation s).answer = (perform clock operation t).answer ∧
      Alike (perform clock operation s).store (perform clock operation t).store := by
  refine ⟨?_, h.left.perform clock operation, h.right.perform clock operation, ?_, fun key => ?_⟩
  · exact answer_perform_congr clock operation fun request _ =>
      answer_list_alike h request (hs request) (ht request)
  · rw [maxPageSize_perform, maxPageSize_perform]
    exact h.maxPageSize_eq
  · rw [get?_perform, get?_perform]
    exact Operation.effect_told clock operation key (h.told_eq key)

/-- **Every run**: at each step both stores give the same answer. -/
theorem run_alike {size : Int} (hσ : ∀ s : σ, maxPageSize s = size → ∀ request, Takes request s)
    (hτ : ∀ t : τ, maxPageSize t = size → ∀ request, Takes request t) {s : σ} {t : τ}
    (h : Alike s t) (hsize : maxPageSize s = size) (history : History) :
    (run history s).1 = (run history t).1 ∧ Alike (storeAfter history s) (storeAfter history t) := by
  induction history generalizing s t with
  | nil => exact ⟨rfl, h⟩
  | cons entry rest ih =>
    obtain ⟨clock, operation⟩ := entry
    obtain ⟨hanswer, halike⟩ := perform_alike h (hσ s hsize)
      (hτ t (h.maxPageSize_eq ▸ hsize)) clock operation
    obtain ⟨hanswers, hlast⟩ := ih halike (by rw [maxPageSize_perform, hsize])
    refine ⟨?_, hlast⟩
    show (perform clock operation s).answer :: _ = (perform clock operation t).answer :: _
    rw [hanswer, hanswers]

/-- Two empty stores of one page size are alike. -/
theorem alike_empty {size : Int} (hsize : 1 ≤ size) :
    Alike (ConfigStore.empty size : σ) (ConfigStore.empty size : τ) where
  left := tidy_empty hsize
  right := tidy_empty hsize
  maxPageSize_eq := by rw [LawfulStore.maxPageSize_empty, LawfulStore.maxPageSize_empty]
  told_eq key := by rw [LawfulStore.get?_empty, LawfulStore.get?_empty]; rfl

end

/-! ## The database and the collections in memory -/

/-- **The two stores are interchangeable**: started empty with one page size that the database can take,
    they give the same answers to every history, step by step. -/
theorem stores_interchangeable (size : Int) (history : History) (hsize : 1 ≤ size)
    (hlimit : size + 1 ≤ Keyset.maxLimit) :
    (run history (ConfigStore.empty size : Database)).1 =
      (run history (ConfigStore.empty size : Memory)).1 := by
  have hdb : ∀ db : Database, db.maxPageSize = size → ∀ request, Takes request db := by
    intro db hdbSize request
    have hone : 1 ≤ db.maxPageSize := by omega
    have hle := (request.effectivePageSize_mem hone).2
    exact (Database.takes_iff hone).2 (by omega)
  exact (run_alike hdb (fun memory _ request => Memory.takes request memory) (alike_empty hsize)
    (LawfulStore.maxPageSize_empty size) history).1

/-- Ties within a millisecond, a forged token with a plus and a malformed one. -/
theorem stores_agree_on_forged_tokens :
    let config : PushConfig := ⟨"https://example.org", some "0:a", none, some ⟨["Bearer"], none⟩⟩
    let clock : Instant := ⟨1500, by decide, by decide⟩
    let later : Instant := ⟨1900, by decide, by decide⟩
    let history : History :=
      [(later, .set "t" config), (clock, .set "t" { config with id := none }),
        (clock, .list ⟨"t", 1, none, "tenant"⟩), (clock, .list ⟨"t", 0, some "+01:0:a", ""⟩),
        (clock, .delete "t" (some "")), (clock, .list ⟨"t", 5, some "no token", ""⟩)]
    1 ≤ (2 : Int) ∧ (2 : Int) + 1 ≤ Keyset.maxLimit ∧
      (run history (ConfigStore.empty 2 : Database)).1 =
        (run history (ConfigStore.empty 2 : Memory)).1 := by
  intro config clock later history
  have hlimit : (2 : Int) + 1 ≤ Keyset.maxLimit := by decide
  exact ⟨by decide, hlimit, stores_interchangeable 2 history (by decide) hlimit⟩

end WebhookRegistry
