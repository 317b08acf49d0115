/-
  Configs read back from their stored payloads.

  The fields of a config and of its authentication have keys of their own, every optional field defaults
  to null, and the JSON of a config nests three deep: a list of schemes in an authentication in a config.
  So every config, whatever its texts hold, comes back from its payload as it was (`readText_writeText`).
-/
import WebhookRegistry.Proofs.Schema.Text
import WebhookRegistry.PushConfig

namespace WebhookRegistry

open Schema
open Json (Fits)

/-- An optional text comes back, as it is never sent as a null. -/
theorem Schema.fieldBack_optionalText (x : Option String) :
    FieldBack (.nullable (.text 0)) (some .null) x x :=
  fieldBack_nullable fun s _ => ⟨text_ne_null 0 s, back_text (Nat.zero_le _)⟩

/-! ## Authentications -/

theorem AuthenticationInfo.apart_fields : AuthenticationInfo.fields.Apart := by decide +kernel

/-- An authentication comes back. -/
theorem AuthenticationInfo.back_toTuple (a : AuthenticationInfo) :
    Back (.record AuthenticationInfo.fields) (Described.toTuple a) (Described.toTuple a) :=
  back_record apart_fields
    ⟨Or.inr ⟨list_ne_null _ _, back_list fun _ _ => back_text (Nat.zero_le _)⟩,
      fieldBack_optionalText a.credentials, trivial⟩

theorem AuthenticationInfo.fits_toTuple (width : Nat) (a : AuthenticationInfo) :
    Fits width (encode .wire (.record AuthenticationInfo.fields) (Described.toTuple a)) 2 :=
  fits_record ⟨fits_list fun _ _ => trivial, fits_optional fun _ _ => trivial, trivial⟩

/-! ## Configs -/

theorem PushConfig.apart_fields : PushConfig.fields.Apart := by decide +kernel

/-- A config comes back. -/
theorem PushConfig.back_toTuple (c : PushConfig) :
    Back (.record PushConfig.fields) (Described.toTuple c) (Described.toTuple c) := by
  refine back_record apart_fields
    ⟨Or.inr ⟨text_ne_null _ _, back_text (Nat.zero_le _)⟩, fieldBack_optionalText c.id,
      fieldBack_optionalText c.token, fieldBack_nullable fun a ha => ?_, trivial⟩
  obtain ⟨info, -, rfl⟩ := Option.map_eq_some_iff.1 ha
  exact ⟨record_ne_null _ _, info.back_toTuple⟩

theorem PushConfig.fits_toTuple (width : Nat) (c : PushConfig) :
    Fits width (encode .wire (.record PushConfig.fields) (Described.toTuple c)) 3 := by
  refine fits_record ⟨trivial, fits_optional fun _ _ => trivial, fits_optional fun _ _ => trivial,
    fits_optional fun a ha => ?_, trivial⟩
  obtain ⟨info, -, rfl⟩ := Option.map_eq_some_iff.1 ha
  exact info.fits_toTuple width

theorem PushConfig.ofTuple_toTuple (c : PushConfig) :
    (Described.ofTuple (Described.toTuple c) : PushConfig) = c := by
  obtain ⟨url, id, token, authentication⟩ := c
  cases authentication with
  | none => rfl
  | some info => rfl

/-- **A config reads back from its payload** as it was. -/
theorem PushConfig.readText_writeText (c : PushConfig) :
    (readText (writeText c) : Except Invalid PushConfig) = .ok c :=
  readText_writeText_self c.back_toTuple (c.fits_toTuple _) (by decide) c.ofTuple_toTuple

end WebhookRegistry
