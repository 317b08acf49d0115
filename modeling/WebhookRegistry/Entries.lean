/-
  Keyed values in the order in which their keys first came.

  A put under a known key replaces the value in place, so a key keeps its position until it is erased.
  Stores and log events are both kept this way; the view of either is `get?`, and each operation below
  is described by what it does to that view.
-/
namespace WebhookRegistry

/-- Keyed values, oldest key first. -/
abbrev Entries (κ α : Type) := List (κ × α)

namespace Entries

variable {κ α : Type} [DecidableEq κ]

/-- The value under a key. -/
def get? (key : κ) : Entries κ α → Option α
  | [] => none
  | (k, a) :: rest => if k = key then some a else get? key rest

/-- Puts a value under a key: in place if the key is known, else at the end. -/
def put (key : κ) (value : α) : Entries κ α → Entries κ α
  | [] => [(key, value)]
  | (k, a) :: rest => if k = key then (k, value) :: rest else (k, a) :: put key value rest

/-- Removes a key with its value. -/
def erase (key : κ) (entries : Entries κ α) : Entries κ α :=
  entries.filter fun entry => decide (entry.1 ≠ key)

/-- Changes the value under a key, if the key is known. -/
def modify (key : κ) (change : α → α) : Entries κ α → Entries κ α
  | [] => []
  | (k, a) :: rest => if k = key then (k, change a) :: rest else (k, a) :: modify key change rest

/-- The keys in order. -/
def keys (entries : Entries κ α) : List κ := entries.map Prod.fst

/-! ## What each operation does to the view -/

@[simp] theorem get?_nil (key : κ) : get? key ([] : Entries κ α) = none := rfl

/-- **A put is seen under its key** and nowhere else. -/
theorem get?_put (key other : κ) (value : α) (entries : Entries κ α) :
    (entries.put key value).get? other = if key = other then some value else entries.get? other := by
  induction entries with
  | nil => by_cases h : key = other <;> simp [put, get?, h]
  | cons entry rest ih =>
    obtain ⟨k, a⟩ := entry
    by_cases hk : k = key <;> by_cases ho : k = other <;> by_cases h : key = other <;>
      simp_all [put, get?]

/-- **An erased key is gone**; the other keys keep their values. -/
theorem get?_erase (key other : κ) (entries : Entries κ α) :
    (entries.erase key).get? other = if key = other then none else entries.get? other := by
  induction entries with
  | nil => simp [erase, get?]
  | cons entry rest ih =>
    obtain ⟨k, a⟩ := entry
    by_cases hk : k = key <;> by_cases ho : k = other <;> by_cases h : key = other <;>
      simp_all [erase, get?]

theorem get?_eq_none_iff {key : κ} {entries : Entries κ α} :
    entries.get? key = none ↔ key ∉ entries.keys := by
  induction entries with
  | nil => simp [get?, keys]
  | cons entry rest ih =>
    obtain ⟨k, a⟩ := entry
    by_cases h : k = key
    · simp [get?, keys, h]
    · simp only [get?, if_neg h, ih, keys, List.map_cons, List.mem_cons, not_or]
      exact ⟨fun hr => ⟨fun e => h e.symm, hr⟩, fun hr => hr.2⟩

end Entries

end WebhookRegistry
