import Scrobbler.Client.Error
import Scrobbler.Proofs.Json.Restoration
import Scrobbler.Proofs.Text.Search
import Scrobbler.Proofs.Text.Utf8

/-!
How a response is judged. A success is passed on as it is. Any other response becomes an error that keeps
it, and whose message is found in the body: JSON is asked for its member `error`, and other text speaks for
itself. When nothing is found there, the status speaks.
-/

namespace Scrobbler

open Json (Decoder)

namespace Response

variable {r : Response} {message : String}

/-- The first header of a name. -/
def HasHeader (r : Response) (name : String) (value : List UInt8) : Prop :=
  ∃ before after, r.headers = before ++ (name, value) :: after ∧ ∀ header ∈ before, header.1 ≠ name

/-- The body is marked as JSON: the first header that tells its type consists of tabs and printable ASCII,
and the name of JSON is in it. -/
def IsMarkedJson (r : Response) : Prop :=
  ∃ value, r.HasHeader "content-type" value ∧ (∀ b ∈ value, b = 0x09 ∨ 0x20 ≤ b ∧ b ≤ 0x7E) ∧
    Text.Utf8.encode "application/json" <:+: value

/-- The body is one JSON document: an object whose last member `error` is that text. -/
def HasErrorMember (r : Response) (message : String) : Prop :=
  ∃ before after : List (String × Json),
    (Decoder.any.entriesOf).runBytes r.body = .ok (before ++ ("error", .text message) :: after) ∧
      ∀ member ∈ after, member.1 ≠ "error"

/-- The body is UTF-8, and this is its text without the blank characters around it. -/
def HasText (r : Response) (message : String) : Prop :=
  ∃ text, r.body = Text.Utf8.encode text ∧ Text.IsCoreOf message.toList text.toList

/-- The message that holds for every response of the status. -/
def statusMessage (r : Response) : String := "HTTP Error " ++ (Status.phrase? r.status.code).getD ""

/-- What a response says about an error. -/
inductive Tells (r : Response) : String → Prop
  | member {message : String} (hJson : r.IsMarkedJson) (hMember : r.HasErrorMember message) :
      r.Tells message
  | noMember (hJson : r.IsMarkedJson) (hNone : ∀ message, ¬r.HasErrorMember message) :
      r.Tells r.statusMessage
  | text {message : String} (hOther : ¬r.IsMarkedJson) (hText : r.HasText message) : r.Tells message
  | noText (hOther : ¬r.IsMarkedJson) (hNone : ∀ message, ¬r.HasText message) :
      r.Tells r.statusMessage

/-- A response with a status from 200 to 299 is passed on, and any other one is kept in an error. -/
inductive Judged (r : Response) : Checked Response → Prop
  | passed (hLow : 200 ≤ r.status.code) (hHigh : r.status.code ≤ 299) : r.Judged (.ok r)
  | refused {message : String} (hOutside : r.status.code < 200 ∨ 299 < r.status.code)
      (hTells : r.Tells message) :
      r.Judged (.error (.api ⟨r.status, (Status.phrase? r.status.code).getD "", message, r⟩))

/-- The character that stands for a byte of a header. -/
def headerChar (b : UInt8) : Char := Char.ofNat b.toNat

/-- No two bytes of a header stand for the same character. -/
theorem headerChar_injective : Function.Injective headerChar := by
  intro a b h
  have hNumber (b : UInt8) : (headerChar b).toNat = b.toNat := by
    rw [headerChar, Char.ofNat, dif_pos (.inl (Nat.lt_trans b.toNat_lt (by decide)))]
    rfl
  rw [← UInt8.toNat_inj, ← hNumber, h, hNumber]

/-- The bytes of a part are in a header if its characters are in the text of the header. -/
theorem map_headerChar_infix_iff {part value : List UInt8} :
    part.map headerChar <:+: value.map headerChar ↔ part <:+: value := by
  constructor
  · rintro ⟨before, after, h⟩
    obtain ⟨first, last, hValue, hFirst, -⟩ := List.map_eq_append_iff.mp h.symm
    obtain ⟨margin, middle, rfl, -, hMiddle⟩ := List.map_eq_append_iff.mp hFirst
    obtain rfl := List.map_injective_iff.mpr headerChar_injective hMiddle
    exact ⟨margin, last, hValue.symm⟩
  · intro h
    exact h.map headerChar

/-- A header is found if there is one of its name whose bytes can all be shown, and only then. -/
theorem header?_eq_some_iff {name text : String} :
    r.header? name = some text ↔
      ∃ value, r.HasHeader name value ∧ value.all isPrintable = true ∧
        String.ofList (value.map headerChar) = text := by
  simp only [header?, HasHeader, Option.bind_eq_some_iff, List.lookup_eq_some_iff, bne_iff_ne,
    Option.ite_none_right_eq_some, Option.some.injEq, ne_comm (a := name)]
  rfl

theorem all_isPrintable_iff {value : List UInt8} :
    value.all isPrintable = true ↔ ∀ b ∈ value, b = 0x09 ∨ 0x20 ≤ b ∧ b ≤ 0x7E := by
  simp [isPrintable]

/-- A response counts as JSON exactly if its content type says so. -/
theorem isJson_iff : ApiError.isJson r = true ↔ r.IsMarkedJson := by
  have hName : "application/json".toList = (Text.Utf8.encode "application/json").map headerChar := by
    decide +kernel
  have hOccurs (value : List UInt8) :
      Text.occursIn "application/json".toList (String.ofList (value.map headerChar)).toList = true ↔
        Text.Utf8.encode "application/json" <:+: value := by
    rw [Text.occursIn_iff, hName, String.toList_ofList, map_headerChar_infix_iff]
  rw [ApiError.isJson, contentType?, Option.any_eq_true]
  constructor
  · rintro ⟨text, hHeader, hIn⟩
    obtain ⟨value, hValue, hPrintable, rfl⟩ := header?_eq_some_iff.mp hHeader
    exact ⟨value, hValue, all_isPrintable_iff.mp hPrintable, (hOccurs value).mp hIn⟩
  · rintro ⟨value, hValue, hPrintable, hIn⟩
    exact ⟨_, header?_eq_some_iff.mpr ⟨value, hValue, all_isPrintable_iff.mpr hPrintable, rfl⟩,
      (hOccurs value).mpr hIn⟩

/-- The member of a document is the last one of its name. -/
theorem errorMember_iff :
    ((r.json .any).toOption.bind fun body => (body.member? "error").bind Json.text?) = some message ↔
      r.HasErrorMember message := by
  have hText {value : Json} : value.text? = some message ↔ value = .text message := by
    cases value <;> simp [Json.text?]
  have hMember {body value : Json} : body.member? "error" = some value ↔
      ∃ members, body = .object members ∧ members.reverse.lookup "error" = some value := by
    cases body <;> simp [Json.member?]
  simp only [Option.bind_eq_some_iff, toOption_eq_some, hText, hMember, json, Decoder.runBytes,
    Decoder.run_eq_ok_iff, HasErrorMember]
  constructor
  · rintro ⟨body, ⟨hBody, hEnd⟩, value, ⟨members, rfl, hLookup⟩, rfl⟩
    obtain ⟨entries, hEntries, rfl⟩ := Decoder.value_eq_object_iff.mp hBody
    rw [NameMap.lookup_reverse_eq_some_iff (NameMap.sorted_ofList entries),
      NameMap.mem_ofList_iff_last] at hLookup
    obtain ⟨before, after, rfl, hAfter⟩ := hLookup
    exact ⟨before, after, ⟨hEntries, hEnd⟩, hAfter⟩
  · rintro ⟨before, after, ⟨hEntries, hEnd⟩, hAfter⟩
    refine ⟨_, ⟨Decoder.value_eq_object_iff.mpr ⟨_, hEntries, rfl⟩, hEnd⟩, _, ⟨_, rfl, ?_⟩, rfl⟩
    rw [NameMap.lookup_reverse_eq_some_iff (NameMap.sorted_ofList _), NameMap.mem_ofList_iff_last]
    exact ⟨before, after, rfl, hAfter⟩

/-- A text that is not blank is told without the blank characters around it. -/
theorem trimmedText_iff :
    (r.text?.bind fun text => if (Text.trim text).isEmpty then none else some (Text.trim text)) =
        some message ↔ r.HasText message := by
  have hTrim {text : String} : ((Text.trim text).isEmpty = false ∧ Text.trim text = message) ↔
      Text.IsCoreOf message.toList text.toList := by
    rw [Text.isCoreOf_iff, Text.trim, ← Bool.not_eq_true, String.isEmpty_iff, Ne, String.toList_eq_nil_iff,
      and_comm]
    constructor
    · rintro ⟨rfl, hFilled⟩
      exact ⟨String.toList_ofList.symm, hFilled⟩
    · rintro ⟨hCore, hFilled⟩
      rw [hCore, String.ofList_toList]
      exact ⟨rfl, hFilled⟩
  simp only [Option.bind_eq_some_iff, text?, Text.Utf8.text?_eq_some_iff, HasText, ← hTrim,
    Option.ite_none_left_eq_some, Option.some.injEq, Bool.not_eq_true]

/-- The message in a body of JSON is the text of its last member for errors. -/
theorem bodyMessage?_of_json (hJson : r.IsMarkedJson) :
    ApiError.bodyMessage? r = some message ↔ r.HasErrorMember message := by
  rw [ApiError.bodyMessage?, if_pos (isJson_iff.mpr hJson)]
  exact errorMember_iff

/-- The message in any other body is its text without spaces at the ends. -/
theorem bodyMessage?_of_not_json (hOther : ¬r.IsMarkedJson) :
    ApiError.bodyMessage? r = some message ↔ r.HasText message := by
  rw [ApiError.bodyMessage?, if_neg (isJson_iff.not.mpr hOther)]
  exact trimmedText_iff

/-- A value that may be missing, and what stands in for it. -/
theorem getD_eq_iff_of_some_iff {α : Type} {found : Option α} {P : α → Prop} (h : ∀ value, found = some value ↔ P value)
    {other value : α} : found.getD other = value ↔ P value ∨ (∀ value, ¬P value) ∧ other = value := by
  cases found with
  | none =>
      have hNone (value : α) : ¬P value := by
        rw [← h value]
        exact nofun
      simp [hNone]
  | some held =>
      have hSome : P held := (h held).mp rfl
      constructor
      · rintro rfl
        exact .inl hSome
      · rintro (hValue | ⟨hNone, -⟩)
        · exact Option.some.inj ((h value).mpr hValue)
        · exact absurd hSome (hNone held)

/-- The message of an error is what the response says. -/
theorem message_eq_iff : (ApiError.ofResponse r).message = message ↔ r.Tells message := by
  show (ApiError.bodyMessage? r).getD r.statusMessage = message ↔ _
  by_cases hJson : r.IsMarkedJson
  · rw [getD_eq_iff_of_some_iff fun found => bodyMessage?_of_json hJson]
    constructor
    · rintro (hMember | ⟨hNone, rfl⟩)
      · exact .member hJson hMember
      · exact .noMember hJson hNone
    · rintro (⟨-, hMember⟩ | ⟨-, hNone⟩ | ⟨hOther, -⟩ | ⟨hOther, -⟩)
      · exact .inl hMember
      · exact .inr ⟨hNone, rfl⟩
      · exact absurd hJson hOther
      · exact absurd hJson hOther
  · rw [getD_eq_iff_of_some_iff fun found => bodyMessage?_of_not_json hJson]
    constructor
    · rintro (hText | ⟨hNone, rfl⟩)
      · exact .text hJson hText
      · exact .noText hJson hNone
    · rintro (⟨hMarked, -⟩ | ⟨hMarked, -⟩ | ⟨-, hText⟩ | ⟨-, hNone⟩)
      · exact absurd hMarked hJson
      · exact absurd hMarked hJson
      · exact .inl hText
      · exact .inr ⟨hNone, rfl⟩

theorem isSuccess_iff {status : Status} : status.isSuccess = true ↔ 200 ≤ status.code ∧ status.code ≤ 299 := by
  simp only [Status.isSuccess, Bool.and_eq_true, decide_eq_true_eq]
  omega

/-- What becomes of a response, whatever its status, its headers and its body are. A success is passed on.
Any other response is kept in an error with its status, and the message of the error is the last member
`error` of a body that is marked as JSON, the text of any other body, or what the status says. -/
theorem check_eq_iff (r : Response) (result : Checked Response) :
    r.check = result ↔ r.Judged result := by
  by_cases hSuccess : r.status.isSuccess = true
  · obtain ⟨hLow, hHigh⟩ := isSuccess_iff.mp hSuccess
    rw [check, if_pos hSuccess]
    constructor
    · rintro rfl
      exact .passed hLow hHigh
    · rintro (_ | ⟨hOutside, -⟩)
      · rfl
      · omega
  · have hOutside : r.status.code < 200 ∨ 299 < r.status.code := by
      rw [isSuccess_iff] at hSuccess
      omega
    rw [check, if_neg hSuccess]
    constructor
    · rintro rfl
      exact .refused hOutside (message_eq_iff.mp rfl)
    · rintro (⟨hLow, hHigh⟩ | ⟨-, hTells⟩)
      · omega
      · rw [← message_eq_iff.mpr hTells]
        rfl

end Response

end Scrobbler
