import DocstringTags.Proofs.Outline.Plan

set_option autoImplicit false

namespace DocstringTags

/-- The later highlight does not start before the other, and of two tags it starts behind the other. -/
structure Highlight.Precedes (h later : Highlight) : Prop where
  start_le : h.span.start ≤ later.span.start
  apart : h.style = .docCommentTag → later.style = .docCommentTag →
    h.span.start < later.span.start ∧ h.span.stop ≤ later.span.start

/-- What keeps its distance from the next span keeps it from all later ones, since no span ends before
it starts. -/
theorem pairwise_of_isChain {α : Type} {span : α → Span} {xs : List α}
    (hordered : ∀ x ∈ xs, (span x).start ≤ (span x).stop)
    (h : xs.IsChain fun x next => (span x).stop ≤ (span next).start) :
    xs.Pairwise fun x later => (span x).stop ≤ (span later).start := by
  induction xs with
  | nil => exact .nil
  | cons x xs ih =>
    obtain ⟨hnext, hrest⟩ := List.isChain_cons.1 h
    obtain ⟨-, hordered⟩ := List.forall_mem_cons.1 hordered
    have hpairwise := ih hordered hrest
    refine List.pairwise_cons.2 ⟨?_, hpairwise⟩
    cases xs with
    | nil => simp
    | cons next xs =>
      have hle : (span x).stop ≤ (span next).start := hnext next rfl
      refine List.forall_mem_cons.2 ⟨hle, fun later hlater => ?_⟩
      have := hordered next List.mem_cons_self
      have := (List.pairwise_cons.1 hpairwise).1 later hlater
      omega

namespace Outline

/-- The highlight lies in the span of the literal. Only a comment may be empty. -/
structure StringLiteral.Covers (literal : StringLiteral) (h : Highlight) : Prop where
  start_le : literal.span.start ≤ h.span.start
  stop_le : h.span.stop ≤ literal.span.stop
  ordered : h.span.start ≤ h.span.stop
  nonempty : h.style = .docCommentTag → h.span.start < h.span.stop

/-- Each literal of the file ends where the next one starts, or before. -/
def File.IsInOrder (file : File) : Prop :=
  file.occurrences.IsChain fun o next => o.literal.span.stop ≤ next.literal.span.start

instance (file : File) : Decidable file.IsInOrder := inferInstanceAs (Decidable (List.IsChain _ _))

section
variable (a : Annotator) {literal : StringLiteral} {o : Occurrence} {file : File}

theorem StringLiteral.Fits.covers_tag (h : literal.Fits) :
    ∀ tag ∈ a.tagHighlights literal, literal.Covers tag := by
  intro tag htag
  obtain ⟨found, hfound, rfl⟩ := List.mem_map.1 htag
  obtain ⟨hlt, hstop⟩ := a.literalTags_bounds hfound
  have := h.size
  refine ⟨?_, ?_, ?_, fun _ => ?_⟩ <;> simp only [Span.move] <;> omega

theorem StringLiteral.Fits.covers_comment (h : literal.Fits) :
    literal.Covers ⟨literal.span, .docComment⟩ :=
  ⟨Nat.le_refl _, Nat.le_refl _, h.ordered, nofun⟩

theorem Occurrence.covers_highlights (h : o.literal.Fits) :
    ∀ x ∈ o.highlights a, o.literal.Covers x := by
  intro x hx
  rcases Occurrence.mem_reports _ _ hx with rfl | htag
  · exact h.covers_comment
  · exact h.covers_tag a x htag

theorem Annotator.pairwise_tagHighlights (literal : StringLiteral) :
    (a.tagHighlights literal).Pairwise Highlight.Precedes := by
  refine List.pairwise_map.2 ?_
  cases htags : a.format.tags? with
  | none => simp [literalTags, htags]
  | some tags =>
    have hlist := a.isTagList_literalTags htags literal
    refine hlist.pairwise.imp_of_mem fun {found later} hfound _ hle => ?_
    have := (hlist.bounds found hfound).2.1
    refine ⟨?_, fun _ _ => ⟨?_, ?_⟩⟩ <;> simp only [Span.move] <;> omega

theorem Occurrence.pairwise_highlights (h : o.literal.Fits) :
    (o.highlights a).Pairwise Highlight.Precedes := by
  have htags := a.pairwise_tagHighlights o.literal
  unfold highlights reports
  split
  · -- the comment starts where its literal does and is no tag
    refine List.pairwise_cons.2 ⟨fun tag htag => ⟨?_, nofun⟩, htags⟩
    exact (h.covers_tag a tag htag).start_le
  · split
    · exact htags
    · exact .nil

theorem StringLiteral.Covers.precedes {later : StringLiteral} {x y : Highlight}
    (hx : literal.Covers x) (hy : later.Covers y) (h : literal.span.stop ≤ later.span.start) :
    x.Precedes y where
  start_le := hx.ordered.trans (hx.stop_le.trans (h.trans hy.start_le))
  apart htag _ := by
    have := hx.nonempty htag
    have := hx.stop_le
    have := hy.start_le
    omega

theorem File.IsInOrder.pairwise (horder : file.IsInOrder)
    (hfits : ∀ o ∈ file.occurrences, o.literal.Fits) :
    file.occurrences.Pairwise fun o later =>
      o.literal.span.stop ≤ later.literal.span.start :=
  pairwise_of_isChain (fun o ho => (hfits o ho).ordered) horder

theorem File.IsInOrder.pairwise_highlights (horder : file.IsInOrder)
    (hfits : ∀ o ∈ file.occurrences, o.literal.Fits) :
    (file.occurrences.flatMap (Occurrence.highlights a)).Pairwise Highlight.Precedes := by
  refine List.pairwise_flatMap.2 ⟨fun o ho => o.pairwise_highlights a (hfits o ho), ?_⟩
  refine (horder.pairwise hfits).imp_of_mem fun {o later} ho hlater h x hx y hy => ?_
  have hx := o.covers_highlights a (hfits o ho) x hx
  have hy := later.covers_highlights a (hfits later hlater) y hy
  exact hx.precedes hy h

end

theorem Annotator.file_in_order (a : Annotator) (file : File) (sink : Sink)
    (hfits : ∀ o ∈ file.occurrences, o.literal.Fits) (horder : file.IsInOrder) :
    ∃ added : List Highlight, a.file file sink = ⟨sink ++ added.toArray, none⟩ ∧
      (added.Pairwise fun h later => h.span.start ≤ later.span.start) ∧
      (added.filter (·.style = .docCommentTag)).Pairwise fun tag later =>
        tag.span.start < later.span.start ∧ tag.span.stop ≤ later.span.start := by
  have hpairwise := horder.pairwise_highlights a hfits
  refine ⟨_, a.file_eq_of_fits sink hfits, hpairwise.imp fun h => h.start_le, ?_⟩
  refine (hpairwise.filter _).imp_of_mem fun {tag later} htag hlater h => ?_
  exact h.apart (of_decide_eq_true (List.mem_filter.1 htag).2)
    (of_decide_eq_true (List.mem_filter.1 hlater).2)

def orderedOutline : File where
  format := none
  body :=
    [.expression (.string ⟨":param :return", ⟨0, 14⟩⟩),
     .assignment ⟨["x"], .other none⟩,
     .expression (.string ⟨"ü :type", ⟨20, 28⟩⟩),
     .classDef "C" [.assignment ⟨["__doc__"], .string ⟨":raises", ⟨28, 35⟩⟩⟩]]

theorem Annotator.file_in_order_of_variable :
    (∀ o ∈ orderedOutline.occurrences, o.literal.Fits) ∧ orderedOutline.IsInOrder ∧
      ∃ added : List Highlight,
        (⟨.rest⟩ : Annotator).file orderedOutline #[] = ⟨#[] ++ added.toArray, none⟩ ∧
        (added.Pairwise fun h later => h.span.start ≤ later.span.start) ∧
        (added.filter (·.style = .docCommentTag)).Pairwise fun tag later =>
          tag.span.start < later.span.start ∧ tag.span.stop ≤ later.span.start :=
  have hfits : ∀ o ∈ orderedOutline.occurrences, o.literal.Fits := by decide
  have horder : orderedOutline.IsInOrder := by decide
  ⟨hfits, horder, Annotator.file_in_order ⟨.rest⟩ orderedOutline #[] hfits horder⟩

end Outline

end DocstringTags
