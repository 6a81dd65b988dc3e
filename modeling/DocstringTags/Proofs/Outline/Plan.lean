import DocstringTags.Outline.Annotate
import DocstringTags.Proofs.Outline.Placement
import DocstringTags.Proofs.Tags.Run
import Mathlib.Data.List.TakeWhile

/-! What an annotator is about to add, as a list that does not depend on the sink. A run adds the
highlights of its plan up to the first that cannot be moved to its place. Main statements:
`Annotator.file_eq_inTurn`, by which the run over a file follows the plan made of its literals, and
`Annotator.file_adds_documentation`, which says what a run that succeeds has added.
-/

set_option autoImplicit false

namespace DocstringTags.Outline

/-- A highlight to add, and the error that keeps it out where its span lies too far right. -/
structure Planned where
  highlight : Highlight
  obstacle : Option OffsetError

namespace Planned

def add (p : Planned) (sink : Sink) : Progress :=
  match p.obstacle with
  | none => ⟨sink.push p.highlight, none⟩
  | some e => ⟨sink, some e⟩

def comment (literal : StringLiteral) : Planned := ⟨⟨literal.span, .docComment⟩, none⟩

def tag (base : Nat) (found : Span) : Planned where
  highlight := ⟨found.move base, .docCommentTag⟩
  obstacle :=
    if found.stop + base ≤ maxOffset then none else some (.overflow found.stop base)

end Planned

section
variable {α β : Type} (act : α → Sink → Progress) (sink : Sink)

theorem Progress.andThen_assoc (p : Progress) (f g : Sink → Progress) :
    (p.andThen f).andThen g = p.andThen fun sink => (f sink).andThen g := by
  cases hp : p.failure <;> simp [andThen, hp]

theorem inTurn_append (xs ys : List α) :
    inTurn act (xs ++ ys) sink = (inTurn act xs sink).andThen (inTurn act ys) := by
  induction xs generalizing sink with
  | nil => rfl
  | cons x xs ih =>
    simp only [List.cons_append, inTurn, Progress.andThen_assoc]
    congr 1
    funext later
    exact ih later

/-- Actions that each follow a list of smaller ones follow the lists one after another. -/
theorem inTurn_flatMap {smaller : β → Sink → Progress} {f : α → List β} {xs : List α}
    (h : ∀ x ∈ xs, ∀ sink, act x sink = inTurn smaller (f x) sink) :
    inTurn act xs sink = inTurn smaller (xs.flatMap f) sink := by
  induction xs generalizing sink with
  | nil => rfl
  | cons x xs ih =>
    obtain ⟨hx, hxs⟩ := List.forall_mem_cons.1 h
    rw [List.flatMap_cons, inTurn_append, inTurn, hx]
    congr 1
    funext later
    exact ih later hxs

theorem inTurn_map {smaller : β → Sink → Progress} {f : α → β} {xs : List α}
    (h : ∀ x ∈ xs, ∀ sink, act x sink = smaller (f x) sink) :
    inTurn act xs sink = inTurn smaller (xs.map f) sink := by
  induction xs generalizing sink with
  | nil => rfl
  | cons x xs ih =>
    obtain ⟨hx, hxs⟩ := List.forall_mem_cons.1 h
    rw [List.map_cons, inTurn, inTurn, hx]
    congr 1
    funext later
    exact ih later hxs

end

/-- A plan is carried out up to the first highlight that is kept out. -/
theorem inTurn_add (plan : List Planned) (sink : Sink) :
    inTurn Planned.add plan sink =
      ⟨sink ++ ((plan.takeWhile (·.obstacle.isNone)).map (·.highlight)).toArray,
        plan.findSome? (·.obstacle)⟩ := by
  induction plan generalizing sink with
  | nil => simp [inTurn]
  | cons p plan ih =>
    cases hp : p.obstacle with
    | some e => simp [inTurn, Planned.add, Progress.andThen, hp]
    | none => simp [inTurn, Planned.add, Progress.andThen, hp, ih]

theorem inTurn_add_of_free {plan : List Planned} (h : ∀ p ∈ plan, p.obstacle = none)
    (sink : Sink) :
    inTurn Planned.add plan sink = ⟨sink ++ (plan.map (·.highlight)).toArray, none⟩ := by
  have hfree : plan.takeWhile (·.obstacle.isNone) = plan :=
    List.takeWhile_eq_self_iff.2 fun p hp => by simp [h p hp]
  rw [inTurn_add, hfree, List.findSome?_eq_none_iff.2 h]

theorem free_of_failure_eq_none {plan : List Planned} {sink : Sink}
    (h : (inTurn Planned.add plan sink).failure = none) : ∀ p ∈ plan, p.obstacle = none := by
  rw [inTurn_add] at h
  exact List.findSome?_eq_none_iff.1 h

namespace Annotator
variable (a : Annotator)

theorem tag_eq_add {found : Span} (h : found.start ≤ found.stop) (base : Nat) (sink : Sink) :
    tag base found sink = (Planned.tag base found).add sink := by
  unfold tag Planned.tag Planned.add
  rw [Span.shift_eq base h]
  by_cases hfits : found.stop + base ≤ maxOffset <;> simp [hfits]

def literalTags (literal : StringLiteral) : List Span :=
  match a.format.tags? with
  | none => []
  | some tags => (Cursor.ofText literal.text tags).remaining

def literalPlan (literal : StringLiteral) : List Planned :=
  (a.literalTags literal).map (Planned.tag literal.span.start)

theorem isTagList_literalTags {tags : TagSet} (h : a.format.tags? = some tags)
    (literal : StringLiteral) : IsTagList tags literal.text 0 (a.literalTags literal) := by
  have hat : (Cursor.ofText literal.text tags).At literal.text.toList := ⟨[], rfl, rfl⟩
  have htags : a.literalTags literal = (Cursor.ofText literal.text tags).remaining := by
    simp [literalTags, h]
  rw [htags]
  exact Cursor.isTagList_remaining hat

theorem tags?_of_mem_literalTags {literal : StringLiteral} {found : Span}
    (h : found ∈ a.literalTags literal) : ∃ tags, a.format.tags? = some tags := by
  unfold literalTags at h
  split at h
  · simp at h
  · next tags htags => exact ⟨tags, htags⟩

theorem literalTags_bounds {literal : StringLiteral} {found : Span}
    (h : found ∈ a.literalTags literal) :
    found.start < found.stop ∧ found.stop ≤ literal.text.utf8ByteSize := by
  obtain ⟨tags, htags⟩ := a.tags?_of_mem_literalTags h
  exact ((a.isTagList_literalTags htags literal).bounds found h).2

theorem docstring_eq_inTurn (literal? : Option StringLiteral) (sink : Sink) :
    a.docstring literal? sink =
      inTurn Planned.add (literal?.toList.flatMap a.literalPlan) sink := by
  cases literal? with
  | none => rfl
  | some literal =>
    simp only [Option.toList_some, List.flatMap_singleton]
    have hbounds : ∀ found ∈ a.literalTags literal,
        found.start < found.stop ∧ found.stop ≤ literal.text.utf8ByteSize :=
      fun found h => a.literalTags_bounds h
    unfold docstring literalPlan literalTags at *
    cases htags : a.format.tags? with
    | none => simp [inTurn]
    | some tags =>
      simp only [htags] at hbounds
      refine inTurn_map _ _ fun found hfound sink => tag_eq_add ?_ _ sink
      exact Nat.le_of_lt (hbounds found hfound).1

theorem node_eq_inTurn (node : Node) (sink : Sink) :
    a.node node sink = inTurn Planned.add (node.reports Planned.comment a.literalPlan) sink := by
  cases node with
  | file outline => exact a.docstring_eq_inTurn _ sink
  | function name body => exact a.docstring_eq_inTurn _ sink
  | classDef name body => exact a.docstring_eq_inTurn _ sink
  | assignment assignment =>
    by_cases hdoc : assignment.assigns docName = true
    · cases hvalue : assignment.value with
      | other span => simp [node, Node.reports, hdoc, hvalue, Expression.string?, inTurn]
      | string literal =>
        simp [node, Node.reports, hdoc, hvalue, Expression.string?, inTurn,
          a.docstring_eq_inTurn, Planned.add, Planned.comment, Progress.andThen]
    · simp [node, Node.reports, hdoc, inTurn]
  | expression value scope previous =>
    cases value with
    | other span => rfl
    | string literal =>
      by_cases hvar : documentsVariable scope previous = true
      · simp [node, Node.reports, hvar, Expression.string?, a.docstring_eq_inTurn]
      · simp [node, Node.reports, hvar, Expression.string?, inTurn]

def filePlan (file : File) : List Planned :=
  file.occurrences.flatMap (Occurrence.reports Planned.comment a.literalPlan)

theorem file_eq_inTurn (file : File) (sink : Sink) :
    a.file file sink = inTurn Planned.add (a.filePlan file) sink := by
  rw [filePlan, ← File.flatMap_walk]
  exact inTurn_flatMap a.node sink fun node _ sink => a.node_eq_inTurn node sink

end Annotator

def Annotator.tagHighlights (a : Annotator) (literal : StringLiteral) : List Highlight :=
  (a.literalTags literal).map fun found => ⟨found.move literal.span.start, .docCommentTag⟩

def Occurrence.highlights (a : Annotator) (o : Occurrence) : List Highlight :=
  o.reports (fun literal => ⟨literal.span, .docComment⟩) a.tagHighlights

/-- The text takes up the whole span, and the span ends at an offset. -/
structure StringLiteral.Fits (literal : StringLiteral) : Prop where
  ordered : literal.span.start ≤ literal.span.stop
  size : literal.span.stop - literal.span.start = literal.text.utf8ByteSize
  stop_le : literal.span.stop ≤ maxOffset

instance (literal : StringLiteral) : Decidable literal.Fits :=
  decidable_of_iff (literal.span.start ≤ literal.span.stop ∧
      literal.span.stop - literal.span.start = literal.text.utf8ByteSize ∧
      literal.span.stop ≤ maxOffset)
    ⟨fun h => ⟨h.1, h.2.1, h.2.2⟩, fun h => ⟨h.ordered, h.size, h.stop_le⟩⟩

namespace Annotator
variable (a : Annotator) {file : File} (sink : Sink)

theorem map_highlight_literalPlan (literal : StringLiteral) :
    (a.literalPlan literal).map (·.highlight) = a.tagHighlights literal := by
  simp [literalPlan, tagHighlights, Planned.tag]

theorem map_highlight_filePlan (file : File) :
    (a.filePlan file).map (·.highlight) = file.occurrences.flatMap (Occurrence.highlights a) := by
  unfold filePlan Occurrence.highlights
  rw [List.map_flatMap]
  congr 1
  funext o
  rw [Occurrence.map_reports]
  congr 1
  funext literal
  exact a.map_highlight_literalPlan literal

theorem literalPlan_free {literal : StringLiteral} (h : literal.Fits) :
    ∀ p ∈ a.literalPlan literal, p.obstacle = none := by
  intro p hp
  obtain ⟨found, hfound, rfl⟩ := List.mem_map.1 hp
  obtain ⟨-, hstop⟩ := a.literalTags_bounds hfound
  have hfits : found.stop + literal.span.start ≤ maxOffset := by
    have := h.ordered
    have := h.size
    have := h.stop_le
    omega
  simp [Planned.tag, hfits]

theorem filePlan_free (h : ∀ o ∈ file.occurrences, o.literal.Fits) :
    ∀ p ∈ a.filePlan file, p.obstacle = none := by
  intro p hp
  obtain ⟨o, ho, hp⟩ := List.mem_flatMap.1 hp
  rcases Occurrence.mem_reports _ _ hp with rfl | hp
  · rfl
  · exact a.literalPlan_free (h o ho) p hp

/-- Where all literals fit, the whole plan is carried out. -/
theorem file_eq_of_fits (h : ∀ o ∈ file.occurrences, o.literal.Fits) :
    a.file file sink =
      ⟨sink ++ (file.occurrences.flatMap (Occurrence.highlights a)).toArray, none⟩ := by
  rw [file_eq_inTurn, inTurn_add_of_free (a.filePlan_free h), map_highlight_filePlan]

end Annotator

theorem Annotator.file_adds_documentation (a : Annotator) (file : File) (sink : Sink)
    (h : (a.file file sink).failure = none) :
    (a.file file sink).sink =
      sink ++ (file.occurrences.flatMap (Occurrence.highlights a)).toArray := by
  rw [file_eq_inTurn] at h ⊢
  rw [inTurn_add_of_free (free_of_failure_eq_none h), map_highlight_filePlan]

def documentedClass : File where
  format := none
  body :=
    [.classDef "C"
      [.expression (.string ⟨":return", ⟨9, 16⟩⟩),
       .assignment ⟨["__doc__"], .string ⟨"ü :param x", ⟨28, 39⟩⟩⟩]]

theorem Annotator.file_adds_documentation_of_class :
    ((⟨.rest⟩ : Annotator).file documentedClass #[]).failure = none ∧
      ((⟨.rest⟩ : Annotator).file documentedClass #[]).sink =
        #[] ++ (documentedClass.occurrences.flatMap (Occurrence.highlights ⟨.rest⟩)).toArray :=
  have h : ((⟨.rest⟩ : Annotator).file documentedClass #[]).failure = none := by
    rw [Annotator.file_eq_of_fits]
    intro o ho
    simp only [documentedClass, File.occurrences, bodyOccurrences, Statement.occurrences,
      Expression.occurrences, List.append_nil, List.cons_append, List.nil_append, List.mem_cons,
      List.not_mem_nil, or_false] at ho
    rcases ho with rfl | rfl
    · exact ⟨by decide, by decide, by decide⟩
    · exact ⟨by decide, by decide, by decide⟩
  ⟨h, Annotator.file_adds_documentation ⟨.rest⟩ documentedClass #[] h⟩

end DocstringTags.Outline
