import DocstringTags.Proofs.Json.Written
import DocstringTags.Report.Json

set_option autoImplicit false

namespace DocstringTags

open Json

def Failure.IsExact (f : Failure) : Prop := ∀ details ∈ f.details?, details.IsExact

namespace Failure

theorem isExact_ofOffsetError (e : OffsetError) : (ofOffsetError e).IsExact := by
  rintro details ⟨⟩
  cases e <;> exact isExact_sorted (by simp)

theorem isExact_ofConfigError (e : ConfigError) : (ofConfigError e).IsExact := nofun

theorem isExact_ofReadError (e : ReadError) : (ofReadError e).IsExact := nofun

theorem isExact_ofFileError (path : String) (e : FileError) : (ofFileError path e).IsExact := by
  unfold ofFileError
  split
  · rintro details ⟨⟩
    simp
  · exact nofun

end Failure

namespace Report

/-- A line feed stands at the end, and no second one before it. -/
def EndsInOneNewLine (text : String) : Prop :=
  ∃ line : String, text = line ++ "\n" ∧ line.toList.getLast? ≠ some '\n'

section
variable {key : String} {value? : Option Json}

theorem forall_mem_optionalMember {P : String × Json → Prop} :
    (∀ m ∈ optionalMember key value?, P m) ↔ ∀ value ∈ value?, P (key, value) := by
  cases value? with
  | none => simp [optionalMember]
  | some value => simp [optionalMember]

end

/-! ## Numbers -/

theorem Entry.isExact_toJson (e : Entry) : e.toJson.IsExact := by
  have hcounts : ∀ n? : Option Nat, ∀ value ∈ n?.map natural, value.IsExact := by simp
  have htext : ∀ value ∈ e.text.map string, value.IsExact := by simp
  rw [toJson, isExact_object]
  simp only [List.forall_mem_append, forall_mem_optionalMember]
  exact ⟨⟨⟨by simp, hcounts e.line⟩, hcounts e.column⟩, htext⟩

theorem Highlights.isExact_toJson (r : Highlights) : r.toJson.IsExact := by
  simp [toJson, Entry.isExact_toJson]

theorem Quote.isExact_toJson (r : Quote) : r.toJson.IsExact := by
  simp [toJson]

theorem Error.isExact_toJson {r : Error} (h : ∀ details ∈ r.info.details, details.IsExact) :
    r.toJson.IsExact := by
  have hinfo : r.info.toJson.IsExact := by
    rw [ErrorInfo.toJson, isExact_object, List.forall_mem_append, forall_mem_optionalMember]
    exact ⟨by simp, h⟩
  simp [toJson, hinfo]

/-! ## Texts -/

theorem getLast?_writePrettyMembers (level : Nat) (members : List (String × Json)) :
    (writePrettyMembers level members).getLast? = some '\x7d' := by
  induction members with
  | nil => simp [writePrettyMembers]
  | cons m members ih => simp [writePrettyMembers, List.getLast?_cons, List.getLast?_append, ih]

theorem getLast?_writePretty_object (level : Nat) (members : List (String × Json)) :
    (writePretty level (.object members)).getLast? = some '\x7d' := by
  cases members with
  | nil => rfl
  | cons m members =>
    simp [writePretty, List.getLast?_cons, List.getLast?_append, getLast?_writePrettyMembers]

theorem endsInOneNewLine_emit (members : List (String × Json)) :
    EndsInOneNewLine (emit (.object members)) := by
  refine ⟨_, rfl, ?_⟩
  rw [pretty, String.toList_ofList, getLast?_writePretty_object]
  decide

theorem isDocument_emit {report : Json} (h : report.IsExact) : IsDocument (emit report) report :=
  isDocument_of_tokens (tokens_prettyLine h)

end Report

end DocstringTags
