import DocstringTags.Proofs.Outline.Plan
import DocstringTags.Proofs.Outline.Reading
import DocstringTags.Proofs.Report.Scan
import DocstringTags.Report.Basic

/-! Annotations against scans. A scan looks at all tags of a text and gives up at the first that cannot
be shifted; an annotator adds those of a literal one by one until then. Main statements:
`scan_literal`, by which both find the same tags and fail with the same error, and
`annotateReport_fails_only_unread`, by which an outline that can be read is always reported on.
-/

set_option autoImplicit false

namespace DocstringTags.Report

open Outline

variable {outline : String} {file : File} {e : Json.ReadError}

theorem annotateReport_of_unread (config : Config) (h : File.ofText outline = .error e) :
    annotateReport config outline = .error (.ofReadError e) := by
  rw [annotateReport, h]
  rfl

theorem annotateReport_of_read (config : Config) (h : File.ofText outline = .ok file) :
    annotateReport config outline =
      let annotator := Annotator.forFile file config.format.value
      .ok (.ok annotator.format.name (formatOrigin file config)
        ((file.occurrences.flatMap (Occurrence.highlights annotator)).map Entry.ofHighlight)) := by
  have hfits := File.yields_ofText outline file h
  have hrun := (Annotator.forFile file config.format.value).file_eq_of_fits #[] hfits
  simp [annotateReport, h, hrun, Except.mapError, bind, Except.bind, pure, Except.pure]

theorem annotateReport_fails_only_unread (config : Config) (outline : String) :
    (∀ file, File.ofText outline = .ok file →
      (∀ o ∈ file.occurrences, o.literal.span.start ≤ o.literal.span.stop ∧
        o.literal.span.stop - o.literal.span.start = o.literal.text.utf8ByteSize) ∧
      ∃ report, annotateReport config outline = .ok report) ∧
    ∀ failure, annotateReport config outline = .error failure ↔
      ∃ e, File.ofText outline = .error e ∧ failure = .ofReadError e := by
  constructor
  · intro file h
    refine ⟨fun o ho => ?_, _, annotateReport_of_read config h⟩
    have hfits := File.yields_ofText outline file h o ho
    exact ⟨hfits.ordered, hfits.size⟩
  · intro failure
    cases h : File.ofText outline with
    | ok file => simp [annotateReport_of_read config h]
    | error e => simp [annotateReport_of_unread config h, eq_comm]

def Entry.highlight (e : Entry) : Highlight := ⟨⟨e.start, e.stop⟩, e.style⟩

section
variable (a : Annotator) (literal : StringLiteral)

theorem findSome?_obstacle_literalPlan :
    (a.literalPlan literal).findSome? (·.obstacle) =
      (a.literalTags literal).findSome? (·.overflow? literal.span.start) :=
  List.findSome?_map

/-- Annotation of a literal fails with the first tag that cannot be shifted. -/
theorem docstring_failure (sink : Sink) :
    (a.docstring (some literal) sink).failure =
      (a.literalTags literal).findSome? (·.overflow? literal.span.start) := by
  rw [a.docstring_eq_inTurn, inTurn_add]
  simp [← findSome?_obstacle_literalPlan]

theorem docstring_sink (sink : Sink) (h : (a.docstring (some literal) sink).failure = none) :
    (a.docstring (some literal) sink).sink = sink ++ (a.tagHighlights literal).toArray := by
  rw [a.docstring_eq_inTurn] at h ⊢
  rw [inTurn_add_of_free (free_of_failure_eq_none h)]
  simp [a.map_highlight_literalPlan]

theorem findAll_literal {tags : TagSet} (h : a.format.tags? = some tags) :
    findAll literal.text 0 tags = .ok (a.literalTags literal) := by
  simp [findAll, Cursor.start, Annotator.literalTags, h, Cursor.ofText, Except.map]

theorem map_highlight_ofTag :
    ((a.literalTags literal).map (Entry.ofTag literal.text literal.span.start)).map
        Entry.highlight = a.tagHighlights literal := by
  rw [List.map_map]
  rfl

theorem filter_tagHighlights :
    (a.tagHighlights literal).filter (·.style = .docCommentTag) = a.tagHighlights literal := by
  refine List.filter_eq_self.2 fun h hmem => ?_
  obtain ⟨found, -, rfl⟩ := List.mem_map.1 hmem
  rfl

/-- A scan of the literal's text, moved to where the literal stands. -/
theorem scan_literal_eq :
    scan literal.text a.format.tags? 0 literal.span.start =
      ((a.literalTags literal).findSome? (·.overflow? literal.span.start)).elim
        (.ok ((a.literalTags literal).map (Entry.ofTag literal.text literal.span.start)))
        fun e => .error (.ofOffsetError e) := by
  cases htags : a.format.tags? with
  | none => simp [scan, Annotator.literalTags, htags]
  | some tags => exact scan_eq (findAll_literal a literal htags) literal.span.start

end

theorem scan_literal (format : Format) (literal : StringLiteral) :
    (scan literal.text format.tags? 0 literal.span.start).map (·.map Entry.highlight) =
      match (⟨format⟩ : Annotator).docstring (some literal) #[] with
      | ⟨sink, none⟩ => .ok (sink.toList.filter (·.style = .docCommentTag))
      | ⟨_, some e⟩ => .error (.ofOffsetError e) := by
  have hscan := scan_literal_eq ⟨format⟩ literal
  have hfailure := docstring_failure ⟨format⟩ literal #[]
  have hsink := docstring_sink ⟨format⟩ literal #[]
  generalize (⟨format⟩ : Annotator).docstring (some literal) #[] = progress at *
  obtain ⟨sink, failure⟩ := progress
  rw [hscan, ← hfailure]
  cases failure with
  | some e => rfl
  | none =>
    obtain rfl : sink = _ := hsink rfl
    simp only [Option.elim_none, Except.map, map_highlight_ofTag, Array.empty_append,
      List.toList_toArray, filter_tagHighlights]

end DocstringTags.Report
