import DocstringTags.Outline.Json
import DocstringTags.Proofs.Json.Reread
import DocstringTags.Proofs.Outline.Reading

/-! Outlines written and read again. Each record is filled from the members that its writer made, and
statements are read by induction on the depth that is left, which goes down by two for each body.
Main statement: `File.ofText_toJson`, by which both forms of the text of a file are read as that
file.
-/

set_option autoImplicit false

namespace DocstringTags

open Json

namespace Span
variable {s : Span}

theorem isIntegral_toJson (h : s.IsValid) : s.toJson.IsIntegral := by
  obtain ⟨hle, hstop⟩ := h
  have hstart : s.start ≤ maxWord := hle.trans hstop
  have hstop : s.stop ≤ maxWord := hstop
  simp [toJson, hstart, hstop]

theorem read_toJson {depth : Nat} (origin : Origin) (h : s.IsValid)
    (hdepth : s.toJson.nesting ≤ depth) : Span.read origin depth s.toJson.draft = .ok s := by
  obtain ⟨depth, rfl, -⟩ := nesting_object_le_iff.1 hdepth
  obtain ⟨hle, hstop⟩ := h
  have hread : ∀ n ≤ maxOffset, readOffset (natural n).draft = .ok n := fun n hn =>
    readNatural_draft "usize" hn hn
  have hfill : Record.fillMembers (Bounds.record depth).fields {}
      (memberDrafts [("start", .natural s.start), ("end", .natural s.stop)]) =
        .ok ⟨some s.start, some s.stop⟩ := by
    rw [Record.fillMembers_draft (hread s.start (hle.trans hstop)) _ rfl rfl,
      Record.fillMembers_draft (hread s.stop hstop) _ rfl rfl]
    rfl
  have hbuild : (Bounds.record depth).build ⟨some s.start, some s.stop⟩ = .ok s := by
    simp [Bounds.record, require, ofBounds, hle, bind, Except.bind]
  exact (Record.ofMembers_eq hfill).trans hbuild

end Span

theorem Format.read_name (format : Format) (depth : Nat) :
    Format.read depth (Json.string format.name).draft = .ok format := by
  rw [Format.read, readVariant_draft]
  cases format <;> rfl

namespace Outline

/-- A literal fits its span, and any other span is one of offsets in order. -/
def Expression.IsPlaced : Expression → Prop
  | .string literal => literal.Fits
  | .other span => ∀ s ∈ span, s.IsValid

mutual

def Statement.expressions : Statement → List Expression
  | .expression value => [value]
  | .assignment assignment => [assignment.value]
  | .function _ body => bodyExpressions body
  | .classDef _ body => bodyExpressions body
  | .other => []

def bodyExpressions : List Statement → List Expression
  | [] => []
  | statement :: rest => statement.expressions ++ bodyExpressions rest

end

def File.expressions (file : File) : List Expression := bodyExpressions file.body

/-! ## Expressions -/

theorem StringLiteral.Fits.isValid {literal : StringLiteral} (h : literal.Fits) :
    literal.span.IsValid := ⟨h.ordered, h.stop_le⟩

theorem LiteralParts.ofMembers_draft {literal : StringLiteral} {depth : Nat} (h : literal.Fits)
    (hdepth : literal.span.toJson.nesting ≤ depth) :
    (LiteralParts.record depth).ofMembers (memberDrafts literal.members) .closed =
      .ok literal := by
  have hspan := Span.read_toJson .value h.isValid hdepth
  have hfill : Record.fillMembers (LiteralParts.record depth).fields {}
      (memberDrafts literal.members) = .ok ⟨some literal.text, some literal.span⟩ := by
    rw [StringLiteral.members, Record.fillMembers_draft (readText_draft literal.text) _ rfl rfl,
      Record.fillMembers_draft hspan _ rfl rfl]
    rfl
  have hsize : literal.span.size = Text.byteSize literal.text.toList := by
    rw [Text.byteSize_toList]
    exact h.size
  rw [Record.ofMembers_eq hfill]
  simp [LiteralParts.record, require, hsize, bind, Except.bind]

theorem otherRecord_ofMembers_draft {span : Span} {depth : Nat} (h : span.IsValid)
    (hdepth : span.toJson.nesting ≤ depth) :
    (otherRecord depth).ofMembers (memberDrafts [("range", span.toJson)]) .closed =
      .ok (.other (some span)) := by
  have hspan : readOptional (Span.read .value depth) span.toJson.draft = .ok (some span) :=
    readOptional_draft (Span.read_toJson .value h hdepth) nofun
  have hfill : Record.fillMembers (otherRecord depth).fields none
      (memberDrafts [("range", span.toJson)]) = .ok (some (some span)) := by
    rw [Record.fillMembers_draft hspan _ rfl rfl]
    rfl
  rw [Record.ofMembers_eq hfill]
  rfl

namespace Expression
variable {value : Expression}

theorem isIntegral_toJson (h : value.IsPlaced) : value.toJson.IsIntegral := by
  cases value with
  | string literal =>
    have hspan := Span.isIntegral_toJson (StringLiteral.Fits.isValid h)
    simp [toJson, StringLiteral.members, hspan]
  | other span =>
    cases span with
    | none => simp [toJson]
    | some span => simp [toJson, Span.isIntegral_toJson (h span rfl)]

def kind : Expression → ExpressionKind
  | .string _ => .string
  | .other _ => .other

def fields : Expression → List (String × Json)
  | .string literal => literal.members
  | .other none => []
  | .other (some span) => [("range", span.toJson)]

theorem readTagged_toJson {depth : Nat} (origin : Origin) (h : value.IsPlaced)
    (hdepth : value.toJson.nesting ≤ depth) :
    readTagged "Expression" ExpressionKind.all origin depth value.toJson.draft =
      .ok (value.kind, .members (memberDrafts value.fields)) := by
  have hj := isIntegral_toJson h
  have hnames : ∀ m ∈ value.fields, m.1 ≠ kindName := by
    rcases value with literal | (_ | span) <;> simp [fields, StringLiteral.members, kindName]
  rcases value with literal | (_ | span)
  all_goals exact readTagged_draft "Expression" origin rfl hnames hj hdepth

theorem read_toJson {depth : Nat} (origin : Origin) (h : value.IsPlaced)
    (hdepth : value.toJson.nesting ≤ depth) :
    Expression.read origin depth value.toJson.draft = .ok value := by
  rw [Expression.read, readTagged_toJson origin h hdepth]
  cases value with
  | string literal =>
    obtain ⟨inner, rfl, hinner⟩ := nesting_object_le_iff.1 hdepth
    have hspan := hinner ("range", literal.span.toJson) (by simp [StringLiteral.members])
    exact congrArg (Except.map Expression.string) (LiteralParts.ofMembers_draft h hspan)
  | other span =>
    cases span with
    | none => rfl
    | some span =>
      obtain ⟨inner, rfl, hinner⟩ := nesting_object_le_iff.1 hdepth
      have hspan := hinner ("range", span.toJson) (by simp)
      exact otherRecord_ofMembers_draft (h span rfl) hspan

end Expression

/-! ## Statements -/

theorem bodyJson_eq_map (body : List Statement) : bodyJson body = body.map Statement.toJson := by
  induction body with
  | nil => rfl
  | cons statement rest ih => rw [bodyJson, ih, List.map_cons]

theorem nesting_bodyJson_le {body : List Statement} {depth : Nat}
    (h : (Json.list (bodyJson body)).nesting ≤ depth) :
    ∃ inner, depth = inner + 1 ∧ ∀ s ∈ body, s.toJson.nesting ≤ inner := by
  obtain ⟨inner, rfl, hitems⟩ := nesting_list_le_iff.1 h
  rw [bodyJson_eq_map] at hitems
  exact ⟨inner, rfl, fun s hs => hitems _ (List.mem_map_of_mem hs)⟩

theorem expressionRecord_ofMembers_draft {value : Expression} {depth : Nat} (h : value.IsPlaced)
    (hdepth : value.toJson.nesting ≤ depth) :
    (expressionRecord depth).ofMembers (memberDrafts [("expression", value.toJson)]) .closed =
      .ok (.expression value) := by
  have hvalue := Expression.read_toJson .value h hdepth
  have hfill : Record.fillMembers (expressionRecord depth).fields none
      (memberDrafts [("expression", value.toJson)]) = .ok (some value) := by
    rw [Record.fillMembers_draft hvalue _ rfl rfl]
    rfl
  rw [Record.ofMembers_eq hfill]
  rfl

theorem AssignmentParts.ofMembers_draft {assignment : Assignment} {depth : Nat}
    (h : assignment.value.IsPlaced)
    (htargets : (Json.list (assignment.targets.map .string)).nesting ≤ depth)
    (hvalue : assignment.value.toJson.nesting ≤ depth) :
    (AssignmentParts.record depth).ofMembers
        (memberDrafts [("targets", .list (assignment.targets.map .string)),
          ("value", assignment.value.toJson)]) .closed = .ok (.assignment assignment) := by
  have hvalue := Expression.read_toJson .value h hvalue
  obtain ⟨inner, rfl, -⟩ := nesting_list_le_iff.1 htargets
  have htargets : readList (fun _ => readText) (inner + 1)
      (Json.list (assignment.targets.map .string)).draft = .ok assignment.targets :=
    readList_draft fun target _ => readText_draft target
  have hfill : Record.fillMembers (AssignmentParts.record (inner + 1)).fields {}
      (memberDrafts [("targets", .list (assignment.targets.map .string)),
        ("value", assignment.value.toJson)]) =
          .ok ⟨some assignment.targets, some assignment.value⟩ := by
    rw [Record.fillMembers_draft htargets _ rfl rfl, Record.fillMembers_draft hvalue _ rfl rfl]
    rfl
  rw [Record.ofMembers_eq hfill]
  rfl

theorem BlockParts.ofMembers_draft (what : String) (make : String → List Statement → Statement)
    {reader : Reader (List Statement)} (name : String) {body : List Statement}
    (h : reader (Json.list (bodyJson body)).draft = .ok body) :
    (BlockParts.record what make reader).ofMembers
        (memberDrafts [("name", .string name), ("body", .list (bodyJson body))]) .closed =
      .ok (make name body) := by
  have hfill : Record.fillMembers (BlockParts.record what make reader).fields {}
      (memberDrafts [("name", .string name), ("body", .list (bodyJson body))]) =
        .ok ⟨some name, some body⟩ := by
    rw [Record.fillMembers_draft (readText_draft name) _ rfl rfl,
      Record.fillMembers_draft h _ rfl rfl]
    rfl
  rw [Record.ofMembers_eq hfill]
  rfl

namespace Statement

def body? : Statement → Option (List Statement)
  | .function _ body | .classDef _ body => some body
  | .expression _ | .assignment _ | .other => none

section
variable {statement : Statement} {body : List Statement} {depth : Nat}

theorem bodyExpressions_subset (h : statement.body? = some body) :
    bodyExpressions body ⊆ statement.expressions := by
  cases statement with
  | function | classDef =>
    cases h
    exact List.Subset.refl _
  | expression | assignment | other => cases h

theorem nesting_of_body (h : statement.body? = some body)
    (hdepth : statement.toJson.nesting ≤ depth) :
    ∃ inner, depth = inner + 2 ∧ ∀ s ∈ body, s.toJson.nesting ≤ inner := by
  cases statement with
  | function | classDef =>
    cases h
    obtain ⟨outer, rfl, hmembers⟩ := nesting_object_le_iff.1 hdepth
    obtain ⟨inner, rfl, hinner⟩ :=
      nesting_bodyJson_le (hmembers ("body", .list (bodyJson body)) (by simp))
    exact ⟨inner, rfl, hinner⟩
  | expression | assignment | other => cases h

end

end Statement

theorem expressions_subset_bodyExpressions {body : List Statement} {statement : Statement}
    (h : statement ∈ body) : statement.expressions ⊆ bodyExpressions body := by
  induction body with
  | nil => cases h
  | cons first rest ih =>
    rw [bodyExpressions]
    rcases List.mem_cons.1 h with rfl | h
    · exact List.subset_append_left _ _
    · exact List.subset_append_of_subset_right _ (ih h)

mutual

theorem Statement.isIntegral_toJson : (statement : Statement) →
    (∀ value ∈ statement.expressions, value.IsPlaced) → statement.toJson.IsIntegral
  | .expression value, h => by
    have hvalue := Expression.isIntegral_toJson (h value (by simp [Statement.expressions]))
    simp [Statement.toJson, hvalue]
  | .assignment assignment, h => by
    have hvalue := Expression.isIntegral_toJson
      (h assignment.value (by simp [Statement.expressions]))
    simp [Statement.toJson, hvalue]
  | .function name body, h => by
    simpa [Statement.toJson] using isIntegral_bodyJson body h
  | .classDef name body, h => by
    simpa [Statement.toJson] using isIntegral_bodyJson body h
  | .other, _ => by simp [Statement.toJson]

theorem isIntegral_bodyJson : (body : List Statement) →
    (∀ value ∈ bodyExpressions body, value.IsPlaced) → ∀ item ∈ bodyJson body, item.IsIntegral
  | [], _ => by simp [bodyJson]
  | statement :: rest, h => by
    obtain ⟨hone, hrest⟩ := List.forall_mem_append.1 h
    exact List.forall_mem_cons.2
      ⟨statement.isIntegral_toJson hone, isIntegral_bodyJson rest hrest⟩

end

def Statement.kind : Statement → StatementKind
  | .expression _ => .expression
  | .assignment _ => .assignment
  | .function _ _ => .function
  | .classDef _ _ => .classDef
  | .other => .other

def Statement.fields : Statement → List (String × Json)
  | .expression value => [("expression", value.toJson)]
  | .assignment a => [("targets", .list (a.targets.map .string)), ("value", a.value.toJson)]
  | .function name body => [("name", .string name), ("body", .list (bodyJson body))]
  | .classDef name body => [("name", .string name), ("body", .list (bodyJson body))]
  | .other => []

section
variable {statement : Statement} {depth : Nat} (origin : Origin)
  (h : ∀ value ∈ statement.expressions, value.IsPlaced)
  (hdepth : statement.toJson.nesting ≤ depth)
include h hdepth

theorem Statement.readTagged_toJson :
    readTagged "Statement" StatementKind.all origin depth statement.toJson.draft =
      .ok (statement.kind, .members (memberDrafts statement.fields)) := by
  have hj := statement.isIntegral_toJson h
  have hnames : ∀ m ∈ statement.fields, m.1 ≠ kindName := by
    cases statement <;> simp [fields, kindName]
  cases statement with
  | expression | assignment | function | classDef | other =>
    exact readTagged_draft "Statement" origin rfl hnames hj hdepth

theorem Statement.readWith_toJson {reader : Reader (List Statement)}
    (hbody : ∀ body, statement.body? = some body →
      reader (Json.list (bodyJson body)).draft = .ok body) :
    readWith reader origin depth statement.toJson.draft = .ok statement := by
  rw [readWith, readTagged_toJson origin h hdepth]
  cases statement with
  | expression value =>
    obtain ⟨inner, rfl, hinner⟩ := nesting_object_le_iff.1 hdepth
    have hvalue := hinner ("expression", value.toJson) (by simp)
    exact expressionRecord_ofMembers_draft (h value (by simp [expressions])) hvalue
  | assignment assignment =>
    obtain ⟨inner, rfl, hinner⟩ := nesting_object_le_iff.1 hdepth
    have htargets := hinner ("targets", .list (assignment.targets.map .string)) (by simp)
    have hvalue := hinner ("value", assignment.value.toJson) (by simp)
    have hplaced := h assignment.value (by simp [expressions])
    exact AssignmentParts.ofMembers_draft hplaced htargets hvalue
  | function name body =>
    exact BlockParts.ofMembers_draft "Function" .function name (hbody body rfl)
  | classDef name body =>
    exact BlockParts.ofMembers_draft "Class" .classDef name (hbody body rfl)
  | other => rfl

end

theorem Statement.read_toJson (origin : Origin) : (depth : Nat) → (statement : Statement) →
    (∀ value ∈ statement.expressions, value.IsPlaced) → statement.toJson.nesting ≤ depth →
    Statement.read origin depth statement.toJson.draft = .ok statement
  | depth + 2, statement, h, hdepth => by
    refine readWith_toJson origin h hdepth fun body hbody => ?_
    -- a body takes an object and a list, as many levels as the reader takes at a time
    obtain ⟨inner, hinner, hnesting⟩ := nesting_of_body hbody hdepth
    obtain rfl : inner = depth := by omega
    rw [bodyJson_eq_map]
    refine readList_draft fun s hs => read_toJson .value inner s ?_ (hnesting s hs)
    intro value hvalue
    exact h value (bodyExpressions_subset hbody (expressions_subset_bodyExpressions hs hvalue))
  | 0, statement, h, hdepth => by
    refine readWith_toJson origin h hdepth fun body hbody => ?_
    obtain ⟨inner, hinner, -⟩ := nesting_of_body hbody hdepth
    omega
  | 1, statement, h, hdepth => by
    refine readWith_toJson origin h hdepth fun body hbody => ?_
    obtain ⟨inner, hinner, -⟩ := nesting_of_body hbody hdepth
    omega

/-! ## Files -/

namespace File
variable {file : File}

theorem isIntegral_toJson (h : ∀ value ∈ file.expressions, value.IsPlaced) :
    file.toJson.IsIntegral := by
  have hbody := isIntegral_bodyJson file.body h
  unfold toJson
  split
  · simpa using hbody
  · simpa using hbody

theorem nesting_body {depth : Nat} (hdepth : file.toJson.nesting ≤ depth) :
    ∃ inner, depth = inner + 2 ∧ ∀ s ∈ file.body, s.toJson.nesting ≤ inner := by
  unfold toJson at hdepth
  split at hdepth
  all_goals
    obtain ⟨outer, rfl, hmembers⟩ := nesting_object_le_iff.1 hdepth
    obtain ⟨inner, rfl, hinner⟩ :=
      nesting_bodyJson_le (hmembers ("body", .list (bodyJson file.body)) (by simp))
    exact ⟨inner, rfl, hinner⟩

theorem read_toJson {depth : Nat} (h : ∀ value ∈ file.expressions, value.IsPlaced)
    (hdepth : file.toJson.nesting ≤ depth) :
    Record.read FileParts.record .text depth file.toJson.draft = .ok file := by
  obtain ⟨inner, rfl, hnesting⟩ := nesting_body hdepth
  have hbody : readList (Statement.read .text) (inner + 1) (Json.list (bodyJson file.body)).draft =
      .ok file.body := by
    rw [bodyJson_eq_map]
    refine readList_draft fun s hs => Statement.read_toJson .text inner s ?_ (hnesting s hs)
    exact fun value hvalue => h value (expressions_subset_bodyExpressions hs hvalue)
  obtain ⟨format, body⟩ := file
  cases format with
  | none =>
    have hfill : Record.fillMembers (FileParts.record (inner + 1)).fields {}
        (memberDrafts [("body", .list (bodyJson body))]) = .ok ⟨none, some body⟩ := by
      rw [Record.fillMembers_draft hbody _ rfl rfl]
      rfl
    exact Record.ofMembers_eq hfill
  | some format =>
    have hformat : readOptional (Format.read (inner + 1)) (Json.string format.name).draft =
        .ok (some format) := readOptional_draft (Format.read_name format (inner + 1)) nofun
    have hfill : Record.fillMembers (FileParts.record (inner + 1)).fields {}
        (memberDrafts [("format", .string format.name), ("body", .list (bodyJson body))]) =
          .ok ⟨some (some format), some body⟩ := by
      rw [Record.fillMembers_draft hformat _ rfl rfl, Record.fillMembers_draft hbody _ rfl rfl]
      rfl
    exact Record.ofMembers_eq hfill

end File

theorem File.ofText_toJson (file : File) (h : ∀ value ∈ file.expressions, value.IsPlaced)
    (hnesting : file.toJson.nesting ≤ maxDepth) :
    File.ofText file.toJson.compact = .ok file ∧ File.ofText file.toJson.pretty = .ok file := by
  have hj := File.isIntegral_toJson h
  have hread := File.read_toJson h hnesting
  constructor
  · rw [File.ofText, read_of_tokens (tokens_compact hj), hread]
  · rw [File.ofText, read_of_tokens (tokens_pretty hj), hread]

def escapedOutline : File where
  format := some .epytext
  body :=
    [.classDef "Größe"
      [.function "__init__"
        [.expression
          (.string ⟨"\"@param \\\t\x01 ü\"", ⟨18446744073709551600, 18446744073709551615⟩⟩),
         .assignment ⟨["self.x", "y"], .other (some ⟨7, 7⟩)⟩,
         .other],
       .function "empty" []],
     .expression (.other none)]

theorem File.ofText_toJson_of_escaped :
    (∀ value ∈ escapedOutline.expressions, value.IsPlaced) ∧
      escapedOutline.toJson.nesting ≤ maxDepth ∧
      File.ofText escapedOutline.toJson.compact = .ok escapedOutline ∧
      File.ofText escapedOutline.toJson.pretty = .ok escapedOutline :=
  have h : ∀ value ∈ escapedOutline.expressions, value.IsPlaced := by
    simp only [escapedOutline, File.expressions, bodyExpressions, Statement.expressions,
      List.append_nil, List.cons_append, List.nil_append, List.forall_mem_cons]
    refine ⟨⟨by decide, by decide, by decide⟩, ?_, ?_, nofun⟩
    · rintro s ⟨⟩
      exact ⟨by decide, by decide⟩
    · exact nofun
  have hnesting : escapedOutline.toJson.nesting ≤ maxDepth := by decide
  ⟨h, hnesting, File.ofText_toJson escapedOutline h hnesting⟩

end Outline

end DocstringTags
