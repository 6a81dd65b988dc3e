import DocstringTags.Proofs.Outline.Source

set_option autoImplicit false

namespace DocstringTags

theorem Format.tags?_eq_none {format : Format} (h : format ∈ [plain, numpy, google]) :
    format.tags? = none := by
  simp only [List.mem_cons, List.not_mem_nil, or_false] at h
  rcases h with rfl | rfl | rfl <;> rfl

namespace Outline

mutual

def Statement.assignments : Statement → List Assignment
  | .expression _ => []
  | .assignment assignment => [assignment]
  | .function _ body => bodyAssignments body
  | .classDef _ body => bodyAssignments body
  | .other => []

def bodyAssignments : List Statement → List Assignment
  | [] => []
  | statement :: rest => statement.assignments ++ bodyAssignments rest

end

def File.assignments (file : File) : List Assignment := bodyAssignments file.body

/-- The assigned string as a comment, where one of the targets is the documentation name. -/
def Assignment.comment? (assignment : Assignment) : Option Highlight :=
  if "__doc__" ∈ assignment.targets then
    assignment.value.string?.map fun literal => ⟨literal.span, .docComment⟩
  else
    none

def File.comments (file : File) : List Highlight := file.assignments.filterMap Assignment.comment?

def Occurrence.comments (o : Occurrence) : List Highlight :=
  o.reports (fun literal => ⟨literal.span, .docComment⟩) fun _ => []

theorem Occurrence.comments_statement (literal : StringLiteral) (scope : Scope)
    (before : List Statement) : comments ⟨literal, .statement scope before⟩ = [] := by
  simp [comments, reports, Place.IsDocValue]

theorem Occurrence.comments_value (literal : StringLiteral) (targets : List String) :
    comments ⟨literal, .value targets⟩ =
      if "__doc__" ∈ targets then [⟨literal.span, .docComment⟩] else [] := by
  simp [comments, reports, Place.IsDocValue]

theorem flatMap_comments_assignment (assignment : Assignment) :
    (assignment.value.occurrences (.value assignment.targets)).flatMap Occurrence.comments =
      assignment.comment?.toList := by
  cases hvalue : assignment.value with
  | other span => simp [Expression.occurrences, Assignment.comment?, hvalue, Expression.string?]
  | string literal =>
    by_cases hdoc : "__doc__" ∈ assignment.targets <;>
      simp [Expression.occurrences, Occurrence.comments_value, Assignment.comment?, hvalue, hdoc,
        Expression.string?]

mutual

theorem Statement.flatMap_comments (scope : Scope) (before : List Statement) :
    (statement : Statement) →
      (statement.occurrences scope before).flatMap Occurrence.comments =
        statement.assignments.filterMap Assignment.comment?
  | .expression (.string literal) => by
    simp [Statement.occurrences, Expression.occurrences, Occurrence.comments_statement,
      Statement.assignments]
  | .expression (.other _) => rfl
  | .assignment assignment => by
    rw [Statement.occurrences, flatMap_comments_assignment, Statement.assignments]
    cases hcomment : assignment.comment? <;> simp [hcomment]
  | .function _ body => flatMap_comments_body .function [] body
  | .classDef _ body => flatMap_comments_body .classBody [] body
  | .other => rfl

theorem flatMap_comments_body (scope : Scope) (before : List Statement) :
    (body : List Statement) →
      (bodyOccurrences scope before body).flatMap Occurrence.comments =
        (bodyAssignments body).filterMap Assignment.comment?
  | [] => rfl
  | statement :: rest => by
    rw [bodyOccurrences, bodyAssignments, List.flatMap_append, List.filterMap_append,
      statement.flatMap_comments scope before, flatMap_comments_body scope _ rest]

end

theorem File.flatMap_comments (file : File) :
    file.occurrences.flatMap Occurrence.comments = file.comments :=
  flatMap_comments_body .file [] file.body

theorem Occurrence.filter_highlights (a : Annotator) (o : Occurrence) :
    (o.highlights a).filter (·.style = .docComment) = o.comments := by
  have htags : (a.tagHighlights o.literal).filter (·.style = .docComment) = [] :=
    List.filter_eq_nil_iff.2 fun h hh => by simp [a.mem_tagHighlights_style hh]
  unfold highlights comments reports
  split
  · simp [htags]
  · split
    · exact htags
    · rfl

theorem Occurrence.highlights_of_tags?_eq_none {a : Annotator} (h : a.format.tags? = none) :
    highlights a = comments := by
  have htags : a.tagHighlights = fun _ => [] := by
    funext literal
    simp [Annotator.tagHighlights, Annotator.literalTags, h]
  funext o
  rw [highlights, htags, comments]

theorem Annotator.filePlan_free_of_tags?_eq_none {a : Annotator} (h : a.format.tags? = none)
    (file : File) : ∀ p ∈ a.filePlan file, p.obstacle = none := by
  intro p hp
  obtain ⟨o, -, hp⟩ := List.mem_flatMap.1 hp
  rcases Occurrence.mem_reports _ _ hp with rfl | htag
  · rfl
  · simp [literalPlan, literalTags, h] at htag

theorem File.style_of_mem_comments {file : File} {h : Highlight} (hmem : h ∈ file.comments) :
    h.style = .docComment := by
  obtain ⟨assignment, -, hcomment⟩ := List.mem_filterMap.1 hmem
  unfold Assignment.comment? at hcomment
  split at hcomment
  · obtain ⟨literal, -, rfl⟩ := Option.map_eq_some_iff.1 hcomment
    rfl
  · cases hcomment

/-- The comments of a file are the same for all annotators. -/
theorem Annotator.file_comments (a : Annotator) (file : File) (sink : Sink) :
    ((a.file file sink).failure = none →
        ∃ added : List Highlight, (a.file file sink).sink = sink ++ added.toArray ∧
          added.filter (·.style = .docComment) = file.comments) ∧
      (a.format ∈ [.plain, .numpy, .google] →
        a.file file sink = ⟨sink ++ file.comments.toArray, none⟩) ∧
      ∀ h ∈ file.comments, h.style ≠ .docCommentTag := by
  refine ⟨fun h => ?_, fun hformat => ?_, fun h hmem => ?_⟩
  · rw [file_eq_inTurn] at h ⊢
    rw [inTurn_add_of_free (free_of_failure_eq_none h), map_highlight_filePlan]
    refine ⟨_, rfl, ?_⟩
    simp only [List.filter_flatMap, Occurrence.filter_highlights, File.flatMap_comments]
  · have hnone := Format.tags?_eq_none hformat
    rw [file_eq_inTurn, inTurn_add_of_free (filePlan_free_of_tags?_eq_none hnone file),
      map_highlight_filePlan, Occurrence.highlights_of_tags?_eq_none hnone,
      File.flatMap_comments]
  · rw [File.style_of_mem_comments hmem]
    exact nofun

/-- No tag has a place behind these literals, and one of the spans is inverted. -/
def farOutline : File where
  format := none
  body :=
    [.expression (.string ⟨":return", ⟨maxOffset, maxOffset⟩⟩),
     .function "f"
      [.classDef "C" [.assignment ⟨["x", "__doc__"], .string ⟨":type é", ⟨maxOffset, 7⟩⟩⟩]]]

theorem Annotator.file_comments_of_nested :
    ((⟨.rest⟩ : Annotator).file documentedClass #[]).failure = none ∧
      (∃ added : List Highlight,
        ((⟨.rest⟩ : Annotator).file documentedClass #[]).sink = #[] ++ added.toArray ∧
        added.filter (·.style = .docComment) = [⟨⟨28, 39⟩, .docComment⟩]) ∧
      (⟨.google⟩ : Annotator).format ∈ [.plain, .numpy, .google] ∧
      (⟨.google⟩ : Annotator).file farOutline #[] =
        ⟨#[] ++ [⟨⟨maxOffset, 7⟩, .docComment⟩].toArray, none⟩ :=
  have hfits : ∀ o ∈ documentedClass.occurrences, o.literal.Fits := by decide
  have h : ((⟨.rest⟩ : Annotator).file documentedClass #[]).failure = none := by
    rw [Annotator.file_eq_of_fits _ _ hfits]
  have hformat : (⟨.google⟩ : Annotator).format ∈ [.plain, .numpy, .google] := by decide
  ⟨h, (Annotator.file_comments ⟨.rest⟩ documentedClass #[]).1 h, hformat,
    (Annotator.file_comments ⟨.google⟩ farOutline #[]).2.1 hformat⟩

end Outline

end DocstringTags
