/-
  Stores seen as records under keys.

  A store keeps records: under the key of a config its creation time and its payload. How it keeps them
  is its own affair; what every store owes is said here once, as the laws of `LawfulStore`:

  1. each operation does to the record under a key what `Operation.effect` says, whatever else the store
     holds (`get?_perform`);

  2. a page is cut off the records of its task in the order of their places, and shows what their
     payloads say (`pageRecords_eq`, `answer_list`).

  A store is `Tidy` if it repeats no key, its times are whole milliseconds and its pages are not empty,
  and `Sound` if moreover its payloads can be read. Operations keep both, so both hold along a run. A
  `Healthy` store is a sound one but for its times, which may be any.
-/
import WebhookRegistry.Proofs.Entries
import WebhookRegistry.Proofs.Paging.Pages
import WebhookRegistry.Store.Basic

namespace WebhookRegistry

/-! ## Payloads and records -/

/-- A form in which configs are kept: what is written can be read back. -/
class Payload (π : Type) where
  write : PushConfig → π
  read : π → Except Schema.Invalid PushConfig
  read_write : ∀ config, read (write config) = .ok config

/-- A record of a task: what is stored under a config id. -/
abbrev Record (π : Type) := String × Stored π

namespace Record

variable {π : Type}

/-- Where a record stands among the records of its task. -/
def position (record : Record π) : Position := ⟨record.2.createdAt, record.1⟩

/-- The config that the payload of a record says. -/
def config [Payload π] (record : Record π) : Except Schema.Invalid PushConfig :=
  Payload.read record.2.payload

/-- Reads payloads in order, up to the first that is unreadable. -/
def readAll [Payload π] (taskId : String) : List (Record π) → Except Failure (List PushConfig)
  | [] => .ok []
  | record :: rest =>
    match record.config with
    | .error invalid => .error (.unreadable ⟨taskId, record.1⟩ invalid)
    | .ok config => (readAll taskId rest).map (config :: ·)

/-- **Records are read to the configs that their payloads say.** -/
theorem readAll_eq_ok_iff [Payload π] {taskId : String} {records : List (Record π)}
    {configs : List PushConfig} :
    readAll taskId records = .ok configs ↔ records.map config = configs.map .ok := by
  induction records generalizing configs with
  | nil => cases configs <;> simp [readAll]
  | cons record rest ih =>
    cases hread : record.config with
    | error invalid =>
      constructor
      · intro h
        rw [readAll, hread] at h
        cases h
      · intro h
        cases configs with
        | nil => cases h
        | cons config configs =>
          have hhead := (List.cons.inj h).1
          rw [hread] at hhead
          cases hhead
    | ok config =>
      rw [readAll, hread]
      dsimp only
      constructor
      · intro h
        cases hrest : readAll taskId rest with
        | error failure =>
          rw [hrest] at h
          cases h
        | ok read =>
          rw [hrest] at h
          cases h
          rw [List.map_cons, List.map_cons, hread, ih.1 hrest]
      · intro h
        cases configs with
        | nil => cases h
        | cons first configs =>
          obtain ⟨hhead, htail⟩ := List.cons.inj h
          rw [hread] at hhead
          cases hhead
          rw [ih.2 htail]
          rfl

/-- Records that can be read each are read together. -/
theorem exists_configs [Payload π] {records : List (Record π)}
    (h : ∀ record ∈ records, ∃ config, record.config = .ok config) :
    ∃ configs : List PushConfig, records.map Record.config = configs.map .ok := by
  induction records with
  | nil => exact ⟨[], rfl⟩
  | cons record rest ih =>
    obtain ⟨config, hconfig⟩ := h record List.mem_cons_self
    obtain ⟨configs, hread⟩ := ih fun r hr => h r (List.mem_cons_of_mem _ hr)
    refine ⟨config :: configs, ?_⟩
    rw [List.map_cons, List.map_cons, hread, hconfig]

end Record

/-- A record after its config has been set: a known one keeps its creation time, a new one gets the time
    on the clock in whole milliseconds. -/
def Stored.renew {π : Type} (clock : Instant) (payload : π) : Option (Stored π) → Stored π
  | some record => { record with payload := payload }
  | none => ⟨some clock.floorMillis, payload⟩

/-- What an operation does to the record under a key. -/
def Operation.effect {π : Type} [Payload π] (clock : Instant) (operation : Operation) (key : ConfigKey)
    (record : Option (Stored π)) : Option (Stored π) :=
  match operation with
  | .set taskId config =>
    if ConfigKey.resolve taskId config.id = key then
      some (Stored.renew clock (Payload.write (config.withDefaultId taskId)) record)
    else record
  | .list _ => record
  | .delete taskId configId => if ConfigKey.resolve taskId configId = key then none else record

/-! ## Stores of records -/

/-- A store whose records can be looked at. -/
class RecordStore (σ : Type) (π : outParam Type) where
  /-- The maximum page size of listings. -/
  maxPageSize : σ → Int
  /-- The records of a task. -/
  recordsOf : String → σ → Entries String (Stored π)
  /-- Whether no key comes twice. -/
  Unique : σ → Prop
  /-- Why the store cannot make pages of a size, if it cannot. -/
  limitFault? : σ → Int → Option Keyset.LimitFault
  /-- The records of one page and the token of the next page. -/
  pageRecords : ListRequest → σ → Except Failure (List (Record π) × Option String)

namespace RecordStore

variable {σ π : Type} [RecordStore σ π]

/-- The record under a key. -/
def get? (key : ConfigKey) (store : σ) : Option (Stored π) :=
  (recordsOf key.taskId store).get? key.configId

/-- Whether no key comes twice, every time is a whole number of milliseconds or missing, and pages are
    not empty. -/
structure Tidy (store : σ) : Prop where
  unique : Unique store
  exact : ∀ key record, get? key store = some record → (Record.position (key.configId, record)).IsExact
  one_le_maxPageSize : 1 ≤ maxPageSize store

/-- Whether moreover every payload can be read. -/
structure Sound [Payload π] (store : σ) : Prop extends Tidy store where
  readable : ∀ key record, get? key store = some record →
    ∃ config, Payload.read record.payload = .ok config

/-- Whether no key comes twice, every payload can be read and pages are not empty; times may be any. -/
structure Healthy [Payload π] (store : σ) : Prop where
  unique : Unique store
  one_le_maxPageSize : 1 ≤ maxPageSize store
  readable : ∀ key record, get? key store = some record →
    ∃ config, Payload.read record.payload = .ok config

theorem Sound.healthy [Payload π] {store : σ} (h : Sound store) : Healthy store :=
  ⟨h.unique, h.one_le_maxPageSize, h.readable⟩

/-- The number of configs on a full page. -/
def pageSize (request : ListRequest) (store : σ) : Nat :=
  (request.effectivePageSize (maxPageSize store)).toNat

theorem one_le_pageSize {store : σ} (h : 1 ≤ maxPageSize store) (request : ListRequest) :
    1 ≤ pageSize request store := by
  have hsize := (request.effectivePageSize_mem h).1
  unfold pageSize
  omega

/-- Whether the store can make pages of the size that a request asks for. -/
def Takes (request : ListRequest) (store : σ) : Prop :=
  limitFault? store (request.effectivePageSize (maxPageSize store)) = none

/-- The records of a task that a cursor has still to come, in order. -/
def due (taskId : String) (cursor : Option Cursor) (store : σ) : List (Record π) :=
  Keyset.ordered Record.position cursor (recordsOf taskId store)

/-- The page that a request is due: the first records that its cursor has still to come. -/
def duePage (request : ListRequest) (store : σ) : Except Failure (List (Record π) × Option String) :=
  match PageToken.decode request.pageToken with
  | .error fault => .error (.token fault)
  | .ok cursor =>
    match limitFault? store (request.effectivePageSize (maxPageSize store)) with
    | some fault => .error (.limit fault)
    | none => .ok (Keyset.cut Record.position (pageSize request store) (due request.id cursor store))

/-- A page cut off a listing, if the token can be read and the store makes pages of the size. -/
def pageOf (listing : Option Cursor → List (Record π)) (request : ListRequest) (store : σ) :
    Except Failure (List (Record π) × Option String) :=
  match PageToken.decode request.pageToken with
  | .error fault => .error (.token fault)
  | .ok cursor =>
    match limitFault? store (request.effectivePageSize (maxPageSize store)) with
    | some fault => .error (.limit fault)
    | none => .ok (Keyset.cut Record.position (pageSize request store) (listing cursor))

/-- The page that is due is cut off the records still to come. -/
theorem duePage_eq_pageOf (request : ListRequest) (store : σ) :
    duePage request store = pageOf (fun cursor => due request.id cursor store) request store := rfl

variable {listing : Option Cursor → List (Record π)} {request : ListRequest} {store : σ}

/-- **A page is cut off the listing behind the cursor.** -/
theorem pageOf_eq_ok_iff {page : List (Record π) × Option String} :
    pageOf listing request store = .ok page ↔
      Takes request store ∧ ∃ cursor, PageToken.decode request.pageToken = .ok cursor ∧
        Keyset.cut Record.position (pageSize request store) (listing cursor) = page := by
  unfold pageOf Takes
  cases PageToken.decode request.pageToken with
  | error fault =>
    constructor
    · intro heq
      cases heq
    · rintro ⟨-, cursor, hcursor, -⟩
      cases hcursor
  | ok cursor =>
    dsimp only
    cases limitFault? store (request.effectivePageSize (maxPageSize store)) with
    | some fault =>
      constructor
      · intro heq
        cases heq
      · rintro ⟨htakes, -⟩
        cases htakes
    | none =>
      constructor
      · intro heq
        exact ⟨rfl, cursor, rfl, Except.ok.inj heq⟩
      · rintro ⟨-, c, hc, hcut⟩
        cases hc
        exact congrArg _ hcut

/-- **There is no page** for a token that cannot be read, or for a size that the store does not take. -/
theorem pageOf_eq_error_iff {failure : Failure} :
    pageOf listing request store = .error failure ↔
      (∃ fault, PageToken.decode request.pageToken = .error fault ∧ failure = .token fault) ∨
        ∃ cursor fault, PageToken.decode request.pageToken = .ok cursor ∧
          limitFault? store (request.effectivePageSize (maxPageSize store)) = some fault ∧
          failure = .limit fault := by
  unfold pageOf
  cases PageToken.decode request.pageToken with
  | error fault =>
    constructor
    · intro heq
      cases heq
      exact Or.inl ⟨fault, rfl, rfl⟩
    · rintro (⟨f, hf, rfl⟩ | ⟨cursor, f, hcursor, -⟩)
      · cases hf
        rfl
      · cases hcursor
  | ok cursor =>
    dsimp only
    cases limitFault? store (request.effectivePageSize (maxPageSize store)) with
    | some fault =>
      constructor
      · intro heq
        cases heq
        exact Or.inr ⟨cursor, fault, rfl, rfl, rfl⟩
      · rintro (⟨f, hf, -⟩ | ⟨c, f, -, hlimit, rfl⟩)
        · cases hf
        · cases hlimit
          rfl
    | none =>
      constructor
      · intro heq
        cases heq
      · rintro (⟨f, hf, -⟩ | ⟨c, f, -, hlimit, -⟩)
        · cases hf
        · cases hlimit

/-- The answer that shows the records of a page. -/
def shown [Payload π] (request : ListRequest) :
    Except Failure (List (Record π) × Option String) → Except Failure ConfigPage
  | .error failure => .error failure
  | .ok (records, next) =>
    (Record.readAll request.id records).map fun configs => ConfigPage.of request configs next

end RecordStore

open RecordStore

/-- What every store owes. -/
class LawfulStore (σ : Type) (π : outParam Type) [Payload π] [ConfigStore σ] [RecordStore σ π] :
    Prop where
  nodup_keys_recordsOf : ∀ (taskId : String) {store : σ}, Unique store →
    (recordsOf taskId store).keys.Nodup
  /-- An empty store is unique, has its page size and no records. -/
  unique_empty : ∀ size, Unique (ConfigStore.empty size : σ)
  maxPageSize_empty : ∀ size, maxPageSize (ConfigStore.empty size : σ) = size
  get?_empty : ∀ key size, get? key (ConfigStore.empty size : σ) = none
  /-- Setting a config answers it as stored and changes nothing but its record. -/
  answer_set : ∀ clock taskId config (store : σ),
    (ConfigStore.set clock taskId config store).answer = .ok (config.withDefaultId taskId)
  unique_set : ∀ clock taskId config {store : σ}, Unique store →
    Unique (ConfigStore.set clock taskId config store).store
  maxPageSize_set : ∀ clock taskId config (store : σ),
    maxPageSize (ConfigStore.set clock taskId config store).store = maxPageSize store
  get?_set : ∀ clock taskId config key (store : σ),
    get? key (ConfigStore.set clock taskId config store).store =
      (Operation.set taskId config).effect clock key (get? key store)
  /-- Deleting removes the record and changes nothing else. -/
  answer_delete : ∀ taskId configId (store : σ),
    (ConfigStore.delete taskId configId store).answer = .ok ()
  unique_delete : ∀ taskId configId {store : σ}, Unique store →
    Unique (ConfigStore.delete taskId configId store).store
  maxPageSize_delete : ∀ taskId configId (store : σ),
    maxPageSize (ConfigStore.delete taskId configId store).store = maxPageSize store
  get?_delete : ∀ clock taskId configId key (store : σ),
    get? key (ConfigStore.delete taskId configId store).store =
      (Operation.delete taskId configId).effect clock key (get? key store)
  /-- Listing shows a page and changes nothing. -/
  store_list : ∀ request (store : σ), (ConfigStore.list request store).store = store
  answer_list : ∀ request (store : σ),
    (ConfigStore.list request store).answer = shown request (pageRecords request store)
  pageRecords_eq : ∀ request {store : σ}, Tidy store → pageRecords request store = duePage request store

end WebhookRegistry
