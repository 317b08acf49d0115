/-
  The table of stored configs.

  A row holds, under the key of a config, its creation time and its payload as JSON text. The table does
  not interpret the text: a row can hold anything, and only `Row.config` reads it.
-/
import WebhookRegistry.Entries
import WebhookRegistry.Store.Basic

namespace WebhookRegistry

/-- A row: a key with the stored text. -/
abbrev Row := ConfigKey × Stored String

namespace Row

/-- Where a row stands among the rows of its task. -/
def position (row : Row) : Position := ⟨row.2.createdAt, row.1.configId⟩

/-- The config that the payload of a row says. -/
def config (row : Row) : Except Schema.Invalid PushConfig := Schema.readText row.2.payload

end Row

/-- The rows, oldest key first. -/
abbrev Table := Entries ConfigKey (Stored String)

namespace Table

/-- The table that holds given rows, if no two of them have one key. -/
def ofRows? (rows : List Row) : Option Table :=
  if (Entries.keys rows).Nodup then some rows else none

/-- Stores a payload under a key; the answer tells whether the row is new. A new row gets the time on
    the clock in whole milliseconds, a known one keeps its time. -/
def upsert (clock : Instant) (key : ConfigKey) (payload : String) (table : Table) : Table × Bool :=
  match table.get? key with
  | some stored => (table.put key { stored with payload := payload }, false)
  | none => (table.put key ⟨some clock.floorMillis, payload⟩, true)

/-- The rows of a task. -/
def ofTask (taskId : String) (table : Table) : List Row :=
  table.filter fun row => decide (row.1.taskId = taskId)

/-- The rows of a task after a cursor in order, at most `limit` of them. -/
def page (taskId : String) (cursor : Option Cursor) (limit : Int) (table : Table) :
    Except Keyset.LimitFault (List Row) :=
  Keyset.select Row.position cursor limit (table.ofTask taskId)

/-- Rows are refused exactly when two of them have one key; else the table holds just them. -/
theorem ofRows?_eq_some_iff {rows : List Row} {table : Table} :
    ofRows? rows = some table ↔ (Entries.keys rows).Nodup ∧ rows = table := by
  simp [ofRows?]

/-- **An upsert is seen under its key** and leaves every other row alone. -/
theorem get?_upsert (clock : Instant) (key other : ConfigKey) (payload : String) (table : Table) :
    (table.upsert clock key payload).1.get? other =
      if key = other then
        some (match table.get? key with
          | some stored => { stored with payload := payload }
          | none => ⟨some clock.floorMillis, payload⟩)
      else table.get? other := by
  unfold upsert
  cases h : table.get? key <;> simp [Entries.get?_put]

/-- A row is new exactly when its key was not in the table. -/
theorem upsert_new_iff (clock : Instant) (key : ConfigKey) (payload : String) (table : Table) :
    (table.upsert clock key payload).2 = true ↔ table.get? key = none := by
  unfold upsert
  cases h : table.get? key <;> simp

end Table

end WebhookRegistry
