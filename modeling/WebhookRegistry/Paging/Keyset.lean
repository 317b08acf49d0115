/-
  The order of a task's configs, and the part of it after a cursor.

  Configs are listed newest first and, at one time, by ascending id; a config without a creation time
  stands at the epoch. There are two readings of this order. `select` is a query on a table: it compares
  instants and takes a limit. `listing` works on a collection in memory: it sorts by whole milliseconds
  but compares with the cursor to the microsecond. On times that are whole milliseconds both are the
  same order.
-/
import WebhookRegistry.Paging.PageToken

namespace WebhookRegistry

/-- Where a config stands in the order: its creation time, if it has one, and its id. -/
structure Position where
  createdAt : Option Instant
  id : String
  deriving DecidableEq, Repr, Inhabited

namespace Position

/-- The instant at which a config is sorted. -/
def sortInstant (p : Position) : Instant := p.createdAt.getD .epoch

/-! ## The order of a query -/

/-- Whether a config comes before another one in the order of a query, or at the same place. -/
def notAfter (p q : Position) : Bool :=
  decide (q.sortInstant < p.sortInstant) ||
    (decide (p.sortInstant = q.sortInstant) && decide (p.id ≤ q.id))

/-- Whether a query that starts after a cursor finds a config. -/
def follows (cursor : Option Cursor) (p : Position) : Bool :=
  match cursor with
  | none => true
  | some c =>
    decide (p.sortInstant < c.time.toInstant) ||
      (decide (p.sortInstant = c.time.toInstant) && decide (c.id < p.id))

/-! ## The order in memory -/

/-- The sort key: milliseconds negated, so that the newest comes first, and the id. -/
def sortKey (p : Position) : Int × String := (-(LogicalTime.of p.createdAt).millis, p.id)

/-- Whether a sort key is at most another one. -/
def keyLe (a b : Int × String) : Bool :=
  decide (a.1 < b.1) || (decide (a.1 = b.1) && decide (a.2 ≤ b.2))

/-- Whether a config comes strictly after a cursor, compared to the microsecond. -/
def isAfter (cursor : Option Cursor) (p : Position) : Bool :=
  match cursor with
  | none => true
  | some c =>
    let time := LogicalTime.of p.createdAt
    decide (time < c.time) || (time == c.time && decide (c.id < p.id))

/-- The page token of a config. -/
def token (p : Position) : String := PageToken.encode (LogicalTime.of p.createdAt) p.id

/-- **A config is sorted at the instant of its logical time.** -/
theorem toInstant_of_createdAt (p : Position) :
    (LogicalTime.of p.createdAt).toInstant = p.sortInstant :=
  LogicalTime.toInstant_of p.createdAt

/-- The two readings agree on what comes after a cursor. -/
theorem isAfter_eq_follows (cursor : Option Cursor) (p : Position) :
    p.isAfter cursor = p.follows cursor := by
  cases cursor with
  | none => rfl
  | some c =>
    have hlt : (LogicalTime.of p.createdAt < c.time) = (p.sortInstant < c.time.toInstant) := by
      show ((LogicalTime.of p.createdAt).toInstant < c.time.toInstant) = _
      rw [toInstant_of_createdAt]
    have heq : (LogicalTime.of p.createdAt == c.time) =
        decide (p.sortInstant = c.time.toInstant) := by
      rw [Bool.eq_iff_iff, LogicalTime.beq_iff, toInstant_of_createdAt, decide_eq_true_iff]
    simp only [isAfter, follows, heq, hlt]

end Position

namespace Keyset

/-! ## Queries -/

/-- Why a query cannot be run with a limit. -/
inductive LimitFault where
  | negative
  | tooLarge
  | tooManyDigits
  deriving DecidableEq, Repr

/-- The largest limit that the database takes, a whole number of 64 bits with sign. -/
def maxLimit : Int := 0x7fffffffffffffff

/-- What is wrong with a limit: it is negative, beyond what the database takes, or so long that it is not
    even written into the query. -/
def limitFault? (limit : Int) : Option LimitFault :=
  if limit < 0 then some .negative
  else if limit ≤ maxLimit then none
  else if (Text.integerText limit).length ≤ Text.maxDigits then some .tooLarge
  else some .tooManyDigits

variable {α : Type}

/-- The rows that a query finds, in order and without a limit. -/
def ordered (place : α → Position) (cursor : Option Cursor) (rows : List α) : List α :=
  (rows.filter fun row => (place row).follows cursor).mergeSort
    fun a b => (place a).notAfter (place b)

/-- The rows that a query finds after a cursor, at most `limit` of them. -/
def select (place : α → Position) (cursor : Option Cursor) (limit : Int) (rows : List α) :
    Except LimitFault (List α) :=
  match limitFault? limit with
  | some fault => .error fault
  | none => .ok ((ordered place cursor rows).take limit.toNat)

theorem limitFault?_eq_none_iff {limit : Int} :
    limitFault? limit = none ↔ 0 ≤ limit ∧ limit ≤ maxLimit := by
  unfold limitFault?
  split
  · simp only [reduceCtorEq, false_iff]
    omega
  · split
    · simp only [true_iff]
      omega
    · split <;> simp only [reduceCtorEq, false_iff] <;> omega

/-- A limit beyond what the database takes is a fault. -/
theorem exists_limitFault {limit : Int} (h : maxLimit < limit) :
    ∃ fault, limitFault? limit = some fault := by
  refine Option.ne_none_iff_exists'.1 fun hnone => ?_
  have hle := (limitFault?_eq_none_iff.1 hnone).2
  omega

/-- **A limit that the database takes is exact.** -/
theorem select_eq {place : α → Position} {cursor : Option Cursor} {limit : Int} {rows : List α}
    (h0 : 0 ≤ limit) (h1 : limit ≤ maxLimit) :
    select place cursor limit rows = .ok ((ordered place cursor rows).take limit.toNat) := by
  unfold select
  rw [limitFault?_eq_none_iff.2 ⟨h0, h1⟩]

/-! ## Collections in memory -/

/-- The items after a cursor in the order of their sort keys. -/
def listing (place : α → Position) (cursor : Option Cursor) (items : List α) : List α :=
  (items.filter fun item => (place item).isAfter cursor).mergeSort
    fun a b => Position.keyLe (place a).sortKey (place b).sortKey

/-! ## Pages -/

/-- Cuts a page off a listing: its items, and the token of the last one if more follow. -/
def cut (place : α → Position) (size : Nat) (items : List α) : List α × Option String :=
  if size < items.length then
    let kept := items.take size
    (kept, kept.getLast?.map fun last => (place last).token)
  else (items, none)

/-- A listing that fits is the last page. -/
theorem cut_of_length_le {place : α → Position} {size : Nat} {items : List α}
    (h : items.length ≤ size) : cut place size items = (items, none) := by
  unfold cut
  rw [if_neg (by omega)]

end Keyset

end WebhookRegistry
