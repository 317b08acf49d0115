/-
  Loggers and where their calls go.

  A logger is known by its name, and a dotted name puts it below others: `a.b` is below `a`. Calls are
  handed upwards from logger to logger until they reach the root, which has the sinks. A detached logger
  hands nothing on, so neither its own calls nor those of the loggers below it get there.
-/
namespace WebhookRegistry

namespace Logger

/-- The names above a name that is given from its end: what is left before each dot, nearest first. The
    character before a dot belongs to a name and is not taken for a dot itself. -/
def aboveReversed : List Char → List String
  | [] => []
  | '.' :: c :: rest => String.ofList (c :: rest).reverse :: aboveReversed rest
  | _ :: rest => aboveReversed rest

/-- The names above a logger, nearest first. -/
def above (name : String) : List String := aboveReversed name.toList.reverse

/-- Whether the calls of a logger reach the root, where some loggers are detached. -/
def reachesRoot (detached : List String) (name : String) : Bool :=
  !(name :: above name).any detached.contains

/-! ## Names with and without dots -/

theorem aboveReversed_of_not_mem {name : List Char} (h : '.' ∉ name) : aboveReversed name = [] := by
  fun_induction aboveReversed name with
  | case1 => rfl
  | case2 c rest ih => simp at h
  | case3 c rest hc ih => exact ih fun hr => h (List.mem_cons_of_mem c hr)

/-- Nothing but the root is above a name without dots. -/
theorem above_of_not_mem {name : String} (h : '.' ∉ name.toList) : above name = [] :=
  aboveReversed_of_not_mem (by simpa using h)

theorem aboveReversed_append {leaf rest : List Char} {c : Char} (h : '.' ∉ leaf) :
    aboveReversed (leaf ++ '.' :: c :: rest) =
      String.ofList (c :: rest).reverse :: aboveReversed rest := by
  induction leaf with
  | nil => rfl
  | cons d leaf ih =>
    have hd : d ≠ '.' := fun e => h (e ▸ List.mem_cons_self)
    rw [List.cons_append, aboveReversed, ih fun hl => h (List.mem_cons_of_mem d hl)]
    intro _ _ hc _
    exact hd hc

/-- **A logger below another** is below it first, and then below all that the other is below. -/
theorem above_child {name leaf : String} {c : Char} {rest : List Char}
    (hname : name.toList.reverse = c :: rest) (hc : c ≠ '.') (hleaf : '.' ∉ leaf.toList) :
    above (name ++ "." ++ leaf) = name :: above name := by
  have hself : String.ofList (c :: rest).reverse = name := by simp [← hname]
  have hrest : aboveReversed (c :: rest) = aboveReversed rest := by
    rw [aboveReversed]
    intro _ _ e _
    exact hc e
  have hrev : (name ++ "." ++ leaf).toList.reverse = leaf.toList.reverse ++ '.' :: c :: rest := by
    simp [String.toList_append, ← hname]
  rw [above, hrev, aboveReversed_append (by simpa using hleaf), hself, above, hname, hrest]

/-- **What is below a detached logger is cut off with it.** -/
theorem reachesRoot_of_above {detached : List String} {name other : String} (h : other ∈ above name)
    (hd : other ∈ detached) : reachesRoot detached name = false := by
  simp only [reachesRoot, List.any_cons, Bool.not_eq_false', Bool.or_eq_true, List.any_eq_true]
  exact .inr ⟨other, h, List.contains_iff_mem.2 hd⟩

end Logger

end WebhookRegistry
