/-
  Chains of metadata only add metadata.

  A chain is any list of kinds of metadata, in any order and with repetitions.

  1. **A series of puts** (`addAll_eq_putAll`): a chain puts all that its kinds add into the event, one
     field after another, so old keys keep their places, and the last value put under a key is seen.

  2. **One value for each key** (`eq_of_mem_supply`): no two kinds of metadata disagree on a key, so it
     does not matter which of the values put under it comes last (`get?_addAll_eq_some_iff`).

  So what an event shows after a chain depends on the kinds in it alone, and a kind that is in the chain
  already adds nothing more (`OnlyAdds`).
-/
import WebhookRegistry.Proofs.Logging.Fields

namespace WebhookRegistry

namespace Metadata

open Entries

variable {surroundings : Surroundings} {chain : List Metadata} {fields : LogFields}

/-! ## What metadata supplies -/

/-- The keys of metadata. -/
def metadataKeys : List String :=
  ["request_id", "service_name", "environment", "process_id", "thread_id"]

/-- All that surroundings supply. -/
def supply (surroundings : Surroundings) : LogFields :=
  [Metadata.request, .service, .process].flatMap (additions surroundings)

/-- Whether a chain supplies a value for a key. There is a request id only if it is not empty. -/
inductive Supplied (surroundings : Surroundings) (chain : List Metadata) : String → Json → Prop where
  | requestId {id : String} (h : .request ∈ chain) (hid : surroundings.requestId = some id)
      (hne : id ≠ "") : Supplied surroundings chain "request_id" (.str id)
  | serviceName (h : .service ∈ chain) :
      Supplied surroundings chain "service_name" (.str surroundings.serviceName)
  | environment (h : .service ∈ chain) :
      Supplied surroundings chain "environment" (.str surroundings.environment)
  | processId (h : .process ∈ chain) :
      Supplied surroundings chain "process_id" (.int surroundings.processId)
  | threadId (h : .process ∈ chain) :
      Supplied surroundings chain "thread_id" (.int surroundings.threadId)

theorem keys_supply_sublist (surroundings : Surroundings) :
    (keys (supply surroundings)).Sublist metadataKeys := by
  obtain ⟨requestId, serviceName, environment, processId, threadId⟩ := surroundings
  cases requestId with
  | none => exact List.sublist_cons_self _ _
  | some id =>
    by_cases h : id.isEmpty = true
    · have hkeys : keys (supply ⟨some id, serviceName, environment, processId, threadId⟩) =
          metadataKeys.tail := by
        simp [supply, additions, keys, metadataKeys, h]
      rw [hkeys]
      exact List.tail_sublist _
    · have hkeys : keys (supply ⟨some id, serviceName, environment, processId, threadId⟩) =
          metadataKeys := by
        simp [supply, additions, keys, metadataKeys, h]
      exact hkeys ▸ List.Sublist.refl _

theorem mem_supply {kind : Metadata} {entry : String × Json}
    (h : entry ∈ kind.additions surroundings) : entry ∈ supply surroundings :=
  List.mem_flatMap.2 ⟨kind, by cases kind <;> decide, h⟩

/-- **A key has one value**, whichever kinds of metadata supply it. -/
theorem eq_of_mem_supply {key : String} {v w : Json} (hv : (key, v) ∈ supply surroundings)
    (hw : (key, w) ∈ supply surroundings) : v = w := by
  have hkeys : (keys (supply surroundings)).Nodup := (by decide : metadataKeys.Nodup).sublist
    (keys_supply_sublist surroundings)
  rw [mem_iff_get? hkeys] at hv hw
  exact Option.some.inj (hv.symm.trans hw)

/-- A value is added under the request id exactly if there is an id that is not empty. -/
theorem mem_additions_request {entry : String × Json} :
    entry ∈ additions surroundings .request ↔
      ∃ id, surroundings.requestId = some id ∧ id ≠ "" ∧ entry = ("request_id", .str id) := by
  unfold additions
  cases surroundings.requestId with
  | none => simp
  | some id => by_cases h : id = "" <;> simp [h]

/-- **What a chain supplies is what its kinds add.** -/
theorem supplied_iff {key : String} {v : Json} :
    Supplied surroundings chain key v ↔ ∃ kind ∈ chain, (key, v) ∈ kind.additions surroundings := by
  constructor
  · rintro (⟨hkind, hid, hne⟩ | hkind | hkind | hkind | hkind)
    · exact ⟨_, hkind, mem_additions_request.2 ⟨_, hid, hne, rfl⟩⟩
    · exact ⟨_, hkind, List.mem_cons_self⟩
    · exact ⟨_, hkind, List.mem_cons_of_mem _ List.mem_cons_self⟩
    · exact ⟨_, hkind, List.mem_cons_self⟩
    · exact ⟨_, hkind, List.mem_cons_of_mem _ List.mem_cons_self⟩
  · rintro ⟨kind, hkind, hmem⟩
    cases kind with
    | request =>
      obtain ⟨id, hid, hne, heq⟩ := mem_additions_request.1 hmem
      cases heq
      exact .requestId hkind hid hne
    | service =>
      simp only [additions, List.mem_cons, List.not_mem_nil, or_false] at hmem
      rcases hmem with heq | heq <;> cases heq
      · exact .serviceName hkind
      · exact .environment hkind
    | process =>
      simp only [additions, List.mem_cons, List.not_mem_nil, or_false] at hmem
      rcases hmem with heq | heq <;> cases heq
      · exact .processId hkind
      · exact .threadId hkind

theorem mem_metadataKeys_of_supplied {key : String} {v : Json}
    (h : Supplied surroundings chain key v) : key ∈ metadataKeys := by
  cases h <;> decide

/-- **A chain is a series of puts.** -/
theorem addAll_eq_putAll (surroundings : Surroundings) (chain : List Metadata) (fields : LogFields) :
    addAll surroundings chain fields = putAll (chain.flatMap (additions surroundings)) fields := by
  induction chain generalizing fields with
  | nil => rfl
  | cons kind rest ih =>
    rw [List.flatMap_cons, putAll_append]
    exact ih (add surroundings fields kind)

/-- What is looked up among the additions of a chain is what the chain supplies. -/
theorem lookup_additions_eq_some_iff {key : String} {v : Json} :
    Json.lookup key (chain.flatMap (additions surroundings)) = some v ↔
      Supplied surroundings chain key v := by
  rw [Json.lookup_eq_some_iff_mem, List.mem_flatMap, supplied_iff]
  · intro w u hw hu
    obtain ⟨kind, -, hw⟩ := List.mem_flatMap.1 hw
    obtain ⟨other, -, hu⟩ := List.mem_flatMap.1 hu
    exact eq_of_mem_supply (mem_supply hw) (mem_supply hu)

/-- **What an event shows after a chain**: what the chain supplies, and else what it showed before. -/
theorem get?_addAll_eq_some_iff {key : String} {v : Json} :
    (addAll surroundings chain fields).get? key = some v ↔
      Supplied surroundings chain key v ∨
        (∀ w, ¬ Supplied surroundings chain key w) ∧ fields.get? key = some v := by
  rw [addAll_eq_putAll, get?_putAll]
  simp only [← lookup_additions_eq_some_iff]
  cases Json.lookup key (chain.flatMap (additions surroundings)) <;> simp

/-- Chains with the same kinds supply the same. -/
theorem supplied_congr {other : List Metadata} (h : ∀ kind, kind ∈ other ↔ kind ∈ chain) (key : String)
    (v : Json) : Supplied surroundings other key v ↔ Supplied surroundings chain key v := by
  simp only [supplied_iff, h]

/-- **A kind that is in the chain already adds nothing more.** -/
theorem add_addAll_of_mem {kind : Metadata} (h : kind ∈ chain) :
    add surroundings (addAll surroundings chain fields) kind = addAll surroundings chain fields :=
  putAll_of_get? fun _ _ hmem => get?_addAll_eq_some_iff.2 (Or.inl (supplied_iff.2 ⟨kind, h, hmem⟩))

/-! ## Nothing but metadata -/

/-- Whether a chain of metadata does nothing but add it to an event: the keys that were there keep their
    places, and only keys of metadata come after them; a key shows what the chain supplies for it, and
    else what it showed before, so one that is not of metadata is left alone; another chain with the same
    kinds gives the same fields up to their order; and a kind that is in the chain already adds nothing
    more. -/
structure OnlyAdds (surroundings : Surroundings) (chain : List Metadata) (fields : LogFields) : Prop where
  positions : ∃ appended, (addAll surroundings chain fields).keys = fields.keys ++ appended ∧
    appended.Nodup ∧ ∀ key ∈ appended, key ∈ metadataKeys ∧ key ∉ fields.keys
  values : ∀ key v, (addAll surroundings chain fields).get? key = some v ↔
    Supplied surroundings chain key v ∨
      (∀ w, ¬ Supplied surroundings chain key w) ∧ fields.get? key = some v
  others : ∀ key, key ∉ metadataKeys →
    (addAll surroundings chain fields).get? key = fields.get? key
  byKinds : ∀ other, (∀ kind, kind ∈ other ↔ kind ∈ chain) →
    (∀ key, (addAll surroundings other fields).get? key = (addAll surroundings chain fields).get? key) ∧
      (addAll surroundings other fields).Perm (addAll surroundings chain fields)
  again : ∀ kind ∈ chain,
    addAll surroundings (chain ++ [kind]) fields = addAll surroundings chain fields

theorem nodup_keys_addAll (surroundings : Surroundings) (chain : List Metadata)
    (h : fields.keys.Nodup) : (addAll surroundings chain fields).keys.Nodup := by
  rw [addAll_eq_putAll]
  exact nodup_keys_putAll h

/-- **A chain of metadata only adds metadata**, whatever it is made of and whatever the event holds. -/
theorem chains_only_add (surroundings : Surroundings) (chain : List Metadata) (fields : LogFields)
    (h : fields.keys.Nodup) : OnlyAdds surroundings chain fields where
  positions := by
    obtain ⟨appended, hkeys, hmem⟩ := keys_putAll (chain.flatMap (additions surroundings)) fields
    rw [← addAll_eq_putAll] at hkeys
    have hnodup := nodup_keys_addAll surroundings chain h
    rw [hkeys, List.nodup_append] at hnodup
    obtain ⟨-, happended, hapart⟩ := hnodup
    refine ⟨appended, hkeys, happended, fun key hkey => ⟨?_, fun hold => hapart key hold key hkey rfl⟩⟩
    obtain ⟨⟨k, v⟩, hadded, rfl⟩ := List.mem_map.1 (hmem key hkey)
    obtain ⟨kind, hkind, hadded⟩ := List.mem_flatMap.1 hadded
    exact mem_metadataKeys_of_supplied (supplied_iff.2 ⟨kind, hkind, hadded⟩)
  values _ _ := get?_addAll_eq_some_iff
  others key hkey := by
    have hnot : ∀ w, ¬ Supplied surroundings chain key w :=
      fun w hw => hkey (mem_metadataKeys_of_supplied hw)
    refine Option.ext fun v => ?_
    rw [get?_addAll_eq_some_iff]
    simp [hnot]
  byKinds other hother := by
    have hview : ∀ key, (addAll surroundings other fields).get? key =
        (addAll surroundings chain fields).get? key := by
      intro key
      refine Option.ext fun v => ?_
      rw [get?_addAll_eq_some_iff, get?_addAll_eq_some_iff]
      simp only [supplied_congr hother]
    have hkeys := nodup_keys_addAll surroundings chain h
    have hotherKeys := nodup_keys_addAll surroundings other h
    refine ⟨hview, (List.perm_ext_iff_of_nodup (nodup_of_nodup_keys hotherKeys)
      (nodup_of_nodup_keys hkeys)).2 fun entry => ?_⟩
    rw [mem_iff_get? hotherKeys, mem_iff_get? hkeys, hview]
  again kind hkind := by
    show addAll surroundings (chain ++ [kind]) fields = _
    unfold addAll
    rw [List.foldl_append]
    exact add_addAll_of_mem hkind

/-- An event that has two keys of metadata already, one of them for a request id that is not known yet,
    and a chain in which a kind comes twice. -/
theorem repeated_chain_only_adds :
    let surroundings : Surroundings := ⟨some "r-1", "store", "test", 7, 8⟩
    let chain : List Metadata := [.process, .request, .process, .service]
    let fields : LogFields := [("thread_id", .str "mine"), ("event", .str "saved"), ("request_id", .null)]
    fields.keys.Nodup ∧ OnlyAdds surroundings chain fields ∧
      addAll surroundings chain fields =
        [("thread_id", .int 8), ("event", .str "saved"), ("request_id", .str "r-1"),
          ("process_id", .int 7), ("service_name", .str "store"), ("environment", .str "test")] :=
  ⟨by decide, chains_only_add _ _ _ (by decide), by rfl⟩

end Metadata

end WebhookRegistry
