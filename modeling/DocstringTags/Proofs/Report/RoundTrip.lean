import DocstringTags.Proofs.Json.Sorted
import DocstringTags.Proofs.Report.Written
import DocstringTags.Report.Json

set_option autoImplicit false

namespace DocstringTags

open Json

theorem Style.read_name (style : Style) (depth : Nat) :
    Style.read depth (Json.string style.name).draft = .ok style := by
  rw [Style.read, readVariant_draft]
  cases style <;> rfl

namespace Report

structure Entry.IsValid (e : Entry) : Prop where
  start_le : e.start ≤ maxOffset
  stop_le : e.stop ≤ maxOffset
  line_le : ∀ line ∈ e.line, line ≤ maxPlace
  column_le : ∀ column ∈ e.column, column ≤ maxPlace

/-- The code is a byte, and what is said beside the message is a value as it is held in memory: its
numbers are machine words, and its objects are maps, which keep their keys sorted. -/
structure ErrorInfo.IsValid (e : ErrorInfo) : Prop where
  code_le : e.code ≤ maxCode
  details_ne_null : ∀ details ∈ e.details, details ≠ .null
  isIntegral : ∀ details ∈ e.details, details.IsIntegral
  isSorted : ∀ details ∈ e.details, details.IsSorted

/-! ## Fields that may be left out -/

section
variable {σ α : Type} {fields : List (Json.Field σ)} {name : String} {get : σ → Option (Option α)}
  {set : σ → Option (Option α) → σ} {reader : Reader (Option α)} {mayLack : Bool} {s : σ}
  {write : α → Json} {x? : Option α}

theorem fillMembers_optionalMember (hread : ∀ x ∈ x?, reader (write x).draft = .ok (some x))
    (members : List (String × Json))
    (hfield : fields.find? (·.name == name) = some (.of name get set reader mayLack))
    (hempty : get s = none) (hkeep : set s none = s) :
    Record.fillMembers fields s (memberDrafts (optionalMember name (x?.map write) ++ members)) =
      Record.fillMembers fields (set s (x?.map some)) (memberDrafts members) := by
  cases x? with
  | none =>
    rw [Option.map_none, Option.map_none, hkeep]
    rfl
  | some x => exact Record.fillMembers_draft (hread x rfl) members hfield hempty

theorem getD_map_some (x? : Option α) : (x?.map some).getD none = x? := by
  cases x? <;> rfl

end

theorem readPlace_draft {n : Nat} (h : n ≤ maxPlace) :
    readPlace (natural n).draft = .ok (some n) := by
  have hword : n ≤ maxWord := Nat.le_trans h (by decide)
  exact readOptional_draft (readNatural_draft "u32" hword h) nofun

/-! ## Highlights -/

section
variable {depth : Nat}

def Entry.members (e : Entry) : List (String × Json) :=
  ("start", .natural e.start) :: ("end", .natural e.stop) :: ("style", .string e.style.name) ::
    (optionalMember "line" (e.line.map .natural) ++
      (optionalMember "col" (e.column.map .natural) ++
        (optionalMember "text" (e.text.map .string) ++ [])))

theorem Entry.toJson_eq (e : Entry) : e.toJson = .object e.members := by
  simp [toJson, members]

theorem Entry.read_toJson {e : Entry} (h : e.IsValid) :
    Entry.read (depth + 1) e.toJson.draft = .ok e := by
  have hstart : readOffset (natural e.start).draft = .ok e.start :=
    readNatural_draft "usize" h.start_le h.start_le
  have hstop : readOffset (natural e.stop).draft = .ok e.stop :=
    readNatural_draft "usize" h.stop_le h.stop_le
  have hline : ∀ n ∈ e.line, readPlace (natural n).draft = .ok (some n) := fun n hn =>
    readPlace_draft (h.line_le n hn)
  have hcolumn : ∀ n ∈ e.column, readPlace (natural n).draft = .ok (some n) := fun n hn =>
    readPlace_draft (h.column_le n hn)
  have htext : ∀ t ∈ e.text, readOptional readText (Json.string t).draft = .ok (some t) :=
    fun t _ => readOptional_draft (readText_draft t) nofun
  have hfill : Record.fillMembers (EntryParts.record depth).fields {} (memberDrafts e.members) =
      .ok ⟨some e.start, some e.stop, some e.style, e.line.map some, e.column.map some,
        e.text.map some⟩ := by
    rw [members, Record.fillMembers_draft hstart _ rfl rfl,
      Record.fillMembers_draft hstop _ rfl rfl,
      Record.fillMembers_draft (Style.read_name e.style depth) _ rfl rfl,
      fillMembers_optionalMember hline _ rfl rfl rfl,
      fillMembers_optionalMember hcolumn _ rfl rfl rfl,
      fillMembers_optionalMember htext _ rfl rfl rfl]
    rfl
  have hbuild : (EntryParts.record depth).build ⟨some e.start, some e.stop, some e.style,
      e.line.map some, e.column.map some, e.text.map some⟩ = .ok e := by
    simp [EntryParts.record, require, getD_map_some, bind, Except.bind, pure, Except.pure]
  rw [toJson_eq]
  exact (Record.ofMembers_eq hfill).trans hbuild

theorem Highlights.read_toJson {r : Highlights} (h : ∀ e ∈ r.entries, e.IsValid) :
    Record.read HighlightsParts.record .text (depth + 3) r.toJson.draft = .ok r := by
  have hentries : readList Entry.read (depth + 2) (Json.list (r.entries.map Entry.toJson)).draft =
      .ok r.entries := readList_draft fun e he => Entry.read_toJson (h e he)
  have hfill : Record.fillMembers (HighlightsParts.record (depth + 2)).fields {}
      (memberDrafts [("status", .string r.status), ("schema_version", .string r.version),
        ("format", .string r.format), ("format_source", .string r.formatSource),
        ("highlights", .list (r.entries.map Entry.toJson))]) =
      .ok ⟨some r.status, some r.version, some r.format, some r.formatSource, some r.entries⟩ := by
    rw [Record.fillMembers_draft (readText_draft r.status) _ rfl rfl,
      Record.fillMembers_draft (readText_draft r.version) _ rfl rfl,
      Record.fillMembers_draft (readText_draft r.format) _ rfl rfl,
      Record.fillMembers_draft (readText_draft r.formatSource) _ rfl rfl,
      Record.fillMembers_draft hentries _ rfl rfl]
    rfl
  exact Record.ofMembers_eq hfill

/-! ## Quotes and errors -/

theorem Quote.read_toJson (r : Quote) :
    Record.read QuoteParts.record .text (depth + 1) r.toJson.draft = .ok r := by
  have hfill : Record.fillMembers (QuoteParts.record depth).fields {}
      (memberDrafts [("status", .string r.status), ("schema_version", .string r.version),
        ("literal", .string r.literal)]) =
      .ok ⟨some r.status, some r.version, some r.literal⟩ := by
    rw [Record.fillMembers_draft (readText_draft r.status) _ rfl rfl,
      Record.fillMembers_draft (readText_draft r.version) _ rfl rfl,
      Record.fillMembers_draft (readText_draft r.literal) _ rfl rfl]
    rfl
  exact Record.ofMembers_eq hfill

def ErrorInfo.members (e : ErrorInfo) : List (String × Json) :=
  ("code", .natural e.code) :: ("message", .string e.message) ::
    (optionalMember "details" (e.details.map id) ++ [])

theorem ErrorInfo.toJson_eq (e : ErrorInfo) : e.toJson = .object e.members := by
  simp [toJson, members]

theorem ErrorInfo.read_toJson {e : ErrorInfo} (h : e.IsValid) (hdepth : e.toJson.nesting ≤ depth) :
    Record.read InfoParts.record .text depth e.toJson.draft = .ok e := by
  obtain ⟨depth, rfl, hinner⟩ := nesting_object_le_iff.1 hdepth
  have hcode : readNatural maxCode "u8" (natural e.code).draft = .ok e.code :=
    readNatural_draft "u8" (Nat.le_trans h.code_le (by decide)) h.code_le
  have hdetails : ∀ details ∈ e.details,
      readOptional (readJson depth) (id details).draft = .ok (some details) := by
    intro details hmem
    have hnesting : details.nesting ≤ depth := by
      refine hinner ("details", details) ?_
      simp [optionalMember, Option.mem_def.1 hmem]
    exact readOptional_draft
      (readJson_draft_of_isSorted (h.isIntegral details hmem) (h.isSorted details hmem) hnesting)
      (h.details_ne_null details hmem)
  have hfill : Record.fillMembers (InfoParts.record depth).fields {} (memberDrafts e.members) =
      .ok ⟨some e.code, some e.message, e.details.map some⟩ := by
    rw [members, Record.fillMembers_draft hcode _ rfl rfl,
      Record.fillMembers_draft (readText_draft e.message) _ rfl rfl,
      fillMembers_optionalMember hdetails _ rfl rfl rfl]
    rfl
  have hbuild : (InfoParts.record depth).build ⟨some e.code, some e.message, e.details.map some⟩ =
      .ok e := by
    simp [InfoParts.record, require, getD_map_some, bind, Except.bind, pure, Except.pure]
  rw [toJson_eq]
  exact (Record.ofMembers_eq hfill).trans hbuild

theorem Error.read_toJson {r : Error} (h : r.info.IsValid) (hdepth : r.toJson.nesting ≤ depth) :
    Record.read ErrorParts.record .text depth r.toJson.draft = .ok r := by
  obtain ⟨depth, rfl, hinner⟩ := nesting_object_le_iff.1 hdepth
  have hinfo : Record.read InfoParts.record .text depth r.info.toJson.draft = .ok r.info :=
    ErrorInfo.read_toJson h (hinner ("error", r.info.toJson) (by simp))
  have hfill : Record.fillMembers (ErrorParts.record depth).fields {}
      (memberDrafts [("status", .string r.status), ("schema_version", .string r.version),
        ("error", r.info.toJson)]) = .ok ⟨some r.status, some r.version, some r.info⟩ := by
    rw [Record.fillMembers_draft (readText_draft r.status) _ rfl rfl,
      Record.fillMembers_draft (readText_draft r.version) _ rfl rfl,
      Record.fillMembers_draft hinfo _ rfl rfl]
    rfl
  exact Record.ofMembers_eq hfill

end

/-! ## Texts -/

theorem Error.isExact_of_isValid {r : Error} (h : r.info.IsValid) : r.toJson.IsExact :=
  r.isExact_toJson fun details hmem => (h.isIntegral details hmem).isExact

theorem ofText_emit :
    (∀ r : Highlights, EndsInOneNewLine (emit r.toJson) ∧
      ((∀ e ∈ r.entries, e.IsValid) → Highlights.ofText (emit r.toJson) = .ok r)) ∧
    (∀ r : Quote, EndsInOneNewLine (emit r.toJson) ∧ Quote.ofText (emit r.toJson) = .ok r) ∧
    ∀ r : Error, EndsInOneNewLine (emit r.toJson) ∧
      (r.info.IsValid → r.toJson.nesting ≤ maxDepth → Error.ofText (emit r.toJson) = .ok r) := by
  refine ⟨fun r => ⟨endsInOneNewLine_emit _, fun h => ?_⟩,
    fun r => ⟨endsInOneNewLine_emit _, ?_⟩,
    fun r => ⟨endsInOneNewLine_emit _, fun h hnesting => ?_⟩⟩
  · rw [Highlights.ofText, (isDocument_emit r.isExact_toJson).read]
    exact Highlights.read_toJson h
  · rw [Quote.ofText, (isDocument_emit r.isExact_toJson).read]
    exact Quote.read_toJson r
  · rw [Error.ofText, (isDocument_emit (Error.isExact_of_isValid h)).read]
    exact Error.read_toJson h hnesting

def escapedHighlights : Highlights :=
  .ok "custom" "cli"
    [{ start := 0, stop := 18446744073709551615, style := .docComment },
     { start := 3, stop := 6, style := .docCommentTag, line := some 1, text := some "\"\\ü\x07" }]

def nestedError : Error :=
  ⟨"error", schemaVersion, 255, "Zeile\n2",
    some (.object [("a", .list []), ("ä", .object [("", .null), ("x", .number (.negative 3))])])⟩

theorem ofText_emit_of_escaped :
    (∀ e ∈ escapedHighlights.entries, e.IsValid) ∧ nestedError.info.IsValid ∧
      nestedError.toJson.nesting ≤ maxDepth ∧
      Highlights.ofText (emit escapedHighlights.toJson) = .ok escapedHighlights ∧
      Error.ofText (emit nestedError.toJson) = .ok nestedError :=
  have hentries : ∀ e ∈ escapedHighlights.entries, e.IsValid := by
    simp only [escapedHighlights, Highlights.ok, List.forall_mem_cons]
    exact ⟨⟨by decide, by decide, by decide, by decide⟩,
      ⟨by decide, by decide, by decide, by decide⟩, nofun⟩
  have hinfo : nestedError.info.IsValid := by
    refine ⟨by decide, ?_, ?_, ?_⟩
    · rintro details ⟨⟩
      exact nofun
    · rintro details ⟨⟩
      show ∀ n ∈ [Number.negative 3], n.IsInteger
      exact List.forall_mem_singleton.2 ⟨by decide, by decide⟩
    · rintro details ⟨⟩
      exact ⟨by decide, trivial, ⟨by decide, trivial, trivial, trivial⟩, trivial⟩
  have hnesting : nestedError.toJson.nesting ≤ maxDepth := by decide
  ⟨hentries, hinfo, hnesting, (ofText_emit.1 escapedHighlights).2 hentries,
    (ofText_emit.2.2 nestedError).2 hinfo hnesting⟩

end Report

end DocstringTags
