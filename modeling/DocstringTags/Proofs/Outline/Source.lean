import DocstringTags.Proofs.Outline.Order

set_option autoImplicit false

namespace DocstringTags

theorem Format.boundary_of_tags? {format : Format} {tags : TagSet} (h : format.tags? = some tags) :
    tags.boundary = .wordEnd := by
  cases format <;> cases h <;> rfl

namespace Outline

def Place.IsDocstring (place : Place) : Prop :=
  place.IsDocValue ∨ place.OpensBody ∨ place.FollowsAssignment

/-- A literal that is the text of its span in a source fits, if the end of the source is an offset. -/
theorem StringLiteral.fits_of_slice? {literal : StringLiteral} {source : String}
    (hsize : source.utf8ByteSize ≤ maxOffset)
    (h : literal.span.slice? source = some literal.text) : literal.Fits := by
  have hstop := Span.stop_eq_of_slice? h
  have hle := Span.stop_le_of_slice? h
  exact ⟨by omega, by omega, by omega⟩

/-- The span holds a token of the format at its place in the literal, and there no letter or number
follows the token. -/
def Annotator.IsTagOf (a : Annotator) (literal : StringLiteral) (source : String) (span : Span) :
    Prop :=
  literal.span.contains span = true ∧
    ∃ tags token, a.format.tags? = some tags ∧ token ∈ tags.tokens ∧
      span.slice? source = some token ∧
      Boundary.wordEnd.Accepts token.toList literal.text.toList (span.start - literal.span.start)

section
variable (a : Annotator) {literal : StringLiteral} {o : Occurrence} {source : String}

theorem Annotator.isTagOf_of_mem (hfits : literal.Fits)
    (h : literal.span.slice? source = some literal.text) :
    ∀ tag ∈ a.tagHighlights literal, a.IsTagOf literal source tag.span := by
  intro tag htag
  have hcovers := hfits.covers_tag a tag htag
  obtain ⟨found, hfound, rfl⟩ := List.mem_map.1 htag
  obtain ⟨tags, htags⟩ := a.tags?_of_mem_literalTags hfound
  obtain ⟨token, hfirst, hslice⟩ := (a.isTagList_literalTags htags literal).token found hfound
  obtain ⟨hmem, -, haccepts⟩ := Boundary.firstAccepted?_accepts hfirst
  rw [Format.boundary_of_tags? htags] at haccepts
  refine ⟨?_, tags, token, htags, hmem, Span.slice?_move h hslice, ?_⟩
  · simp [Span.contains, hcovers.start_le, hcovers.stop_le]
  · simpa [Span.move] using haccepts

theorem Annotator.mem_tagHighlights_style {tag : Highlight} (h : tag ∈ a.tagHighlights literal) :
    tag.style = .docCommentTag := by
  obtain ⟨found, -, rfl⟩ := List.mem_map.1 h
  rfl

/-- A highlight is the comment of an assigned docstring or a tag in some docstring. -/
theorem Occurrence.mem_highlights {x : Highlight} (h : x ∈ o.highlights a) :
    (o.place.IsDocValue ∧ x = ⟨o.literal.span, .docComment⟩) ∨
      o.place.IsDocstring ∧ x ∈ a.tagHighlights o.literal := by
  unfold highlights reports at h
  split at h
  · next hvalue =>
    rcases List.mem_cons.1 h with rfl | htag
    · exact .inl ⟨hvalue, rfl⟩
    · exact .inr ⟨.inl hvalue, htag⟩
  · split at h
    · next hplace => exact .inr ⟨.inr hplace, h⟩
    · cases h

end

/-- The end of the source has to be an offset, as it is for every text that is held in memory. -/
theorem Annotator.file_on_source (a : Annotator) (file : File) (source : String) (sink : Sink)
    (hsize : source.utf8ByteSize ≤ maxOffset)
    (hsource : ∀ o ∈ file.occurrences, o.literal.span.slice? source = some o.literal.text) :
    ∃ added : List Highlight, a.file file sink = ⟨sink ++ added.toArray, none⟩ ∧
      (∀ h ∈ added, h.style = .docComment →
        ∃ o ∈ file.occurrences, o.place.IsDocValue ∧ h.span.slice? source = some o.literal.text) ∧
      ∀ h ∈ added, h.style = .docCommentTag →
        ∃ o ∈ file.occurrences, o.place.IsDocstring ∧ a.IsTagOf o.literal source h.span := by
  have hfits : ∀ o ∈ file.occurrences, o.literal.Fits := fun o ho =>
    StringLiteral.fits_of_slice? hsize (hsource o ho)
  refine ⟨_, a.file_eq_of_fits sink hfits, fun h hmem hstyle => ?_, fun h hmem hstyle => ?_⟩
  · obtain ⟨o, ho, hh⟩ := List.mem_flatMap.1 hmem
    rcases o.mem_highlights a hh with ⟨hvalue, rfl⟩ | ⟨-, htag⟩
    · exact ⟨o, ho, hvalue, hsource o ho⟩
    · rw [a.mem_tagHighlights_style htag] at hstyle
      cases hstyle
  · obtain ⟨o, ho, hh⟩ := List.mem_flatMap.1 hmem
    rcases o.mem_highlights a hh with ⟨-, rfl⟩ | ⟨hplace, htag⟩
    · cases hstyle
    · exact ⟨o, ho, hplace, a.isTagOf_of_mem (hfits o ho) (hsource o ho) h htag⟩

def annotatedSource : String :=
  "'ü :param x'\nclass C:\n    y = 1\n    ':type é:params'\n    __doc__ = ':raises ü'\n"

def sourceOutline : File where
  format := none
  body :=
    [.expression (.string ⟨"'ü :param x'", ⟨0, 13⟩⟩),
     .classDef "C"
      [.assignment ⟨["y"], .other none⟩,
       .expression (.string ⟨"':type é:params'", ⟨37, 54⟩⟩),
       .assignment ⟨["__doc__"], .string ⟨"':raises ü'", ⟨69, 81⟩⟩⟩]]

theorem Annotator.file_on_source_of_class :
    annotatedSource.utf8ByteSize ≤ maxOffset ∧
      (∀ o ∈ sourceOutline.occurrences,
        o.literal.span.slice? annotatedSource = some o.literal.text) ∧
      ∃ added : List Highlight,
        (⟨.rest⟩ : Annotator).file sourceOutline #[] = ⟨#[] ++ added.toArray, none⟩ ∧
        (∀ h ∈ added, h.style = .docComment →
          ∃ o ∈ sourceOutline.occurrences, o.place.IsDocValue ∧
            h.span.slice? annotatedSource = some o.literal.text) ∧
        ∀ h ∈ added, h.style = .docCommentTag →
          ∃ o ∈ sourceOutline.occurrences, o.place.IsDocstring ∧
            (⟨.rest⟩ : Annotator).IsTagOf o.literal annotatedSource h.span :=
  have hsize : annotatedSource.utf8ByteSize ≤ maxOffset := by decide
  have hsource : ∀ o ∈ sourceOutline.occurrences,
      o.literal.span.slice? annotatedSource = some o.literal.text := by decide
  ⟨hsize, hsource,
    Annotator.file_on_source ⟨.rest⟩ sourceOutline annotatedSource #[] hsize hsource⟩

end Outline

end DocstringTags
