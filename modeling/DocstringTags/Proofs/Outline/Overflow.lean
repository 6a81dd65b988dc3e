import DocstringTags.Proofs.Outline.Plan

/-! Runs that stop. Where offsets had no end, an annotator would add one highlight for each of its
findings; a run adds those in front of the first finding that is too far right, whatever is in the
sink. Main statements: `inTurn_add_of_split`, `Annotator.perform_eq_inTurn`, by which every task
follows its findings, and `Annotator.perform_adds`.
-/

set_option autoImplicit false

namespace DocstringTags.Outline

/-- What is found in a file: a literal that is a comment as a whole, or a tag in a literal. -/
inductive Finding where
  | comment (literal : StringLiteral)
  | tag (literal : StringLiteral) (found : Span)

namespace Finding

/-- The highlight where offsets have no end. -/
def highlight : Finding → Highlight
  | .comment literal => ⟨literal.span, .docComment⟩
  | .tag literal found => ⟨found.move literal.span.start, .docCommentTag⟩

/-- In the file the tag would stop behind the last offset. -/
def Overflows : Finding → Prop
  | .comment _ => False
  | .tag literal found => maxOffset < found.stop + literal.span.start

def planned : Finding → Planned
  | .comment literal => .comment literal
  | .tag literal found => .tag literal.span.start found

theorem highlight_planned (f : Finding) : f.planned.highlight = f.highlight := by
  cases f <;> rfl

theorem obstacle_planned_eq_none_iff {f : Finding} : f.planned.obstacle = none ↔ ¬f.Overflows := by
  cases f with
  | comment literal => simp [planned, Planned.comment, Overflows]
  | tag literal found => simp [planned, Planned.tag, Overflows]

theorem obstacle_planned_of_overflows {literal : StringLiteral} {found : Span}
    (h : (tag literal found).Overflows) :
    (tag literal found).planned.obstacle = some (.overflow found.stop literal.span.start) := by
  have hlt : ¬found.stop + literal.span.start ≤ maxOffset := Nat.not_le.2 h
  simp [planned, Planned.tag, hlt]

end Finding

theorem forall_not_or_exists_first {α : Type} (p : α → Prop) (xs : List α) :
    (∀ x ∈ xs, ¬p x) ∨
      ∃ before x after, xs = before ++ x :: after ∧ (∀ y ∈ before, ¬p y) ∧ p x := by
  induction xs with
  | nil => exact .inl nofun
  | cons x xs ih =>
    by_cases hx : p x
    · exact .inr ⟨[], x, xs, rfl, nofun, hx⟩
    · rcases ih with hnone | ⟨before, y, after, rfl, hbefore, hy⟩
      · exact .inl (List.forall_mem_cons.2 ⟨hx, hnone⟩)
      · exact .inr ⟨x :: before, y, after, rfl, List.forall_mem_cons.2 ⟨hx, hbefore⟩, hy⟩

theorem inTurn_add_of_split {before after : List Planned} {p : Planned} {e : OffsetError}
    (hbefore : ∀ q ∈ before, q.obstacle = none) (hp : p.obstacle = some e) (sink : Sink) :
    inTurn Planned.add (before ++ p :: after) sink =
      ⟨sink ++ (before.map (·.highlight)).toArray, some e⟩ := by
  rw [inTurn_append, inTurn_add_of_free hbefore]
  simp [Progress.andThen, inTurn, Planned.add, hp]

inductive Task where
  | docstring (literal : Option StringLiteral)
  | node (node : Node)
  | file (file : File)

namespace Annotator
variable (a : Annotator)

def perform : Task → Sink → Progress
  | .docstring literal => a.docstring literal
  | .node node => a.node node
  | .file file => a.file file

def literalFindings (literal : StringLiteral) : List Finding :=
  (a.literalTags literal).map (.tag literal)

/-- The findings of a task in the order in which the literals are visited. -/
def findings : Task → List Finding
  | .docstring literal => literal.toList.flatMap a.literalFindings
  | .node node => node.reports .comment a.literalFindings
  | .file file => file.occurrences.flatMap (Occurrence.reports .comment a.literalFindings)

theorem map_planned_literalFindings (literal : StringLiteral) :
    (a.literalFindings literal).map Finding.planned = a.literalPlan literal := by
  rw [literalFindings, literalPlan, List.map_map]
  rfl

theorem perform_eq_inTurn (task : Task) (sink : Sink) :
    a.perform task sink = inTurn Planned.add ((a.findings task).map Finding.planned) sink := by
  cases task with
  | docstring literal =>
    rw [perform, docstring_eq_inTurn, findings, List.map_flatMap]
    simp only [map_planned_literalFindings]
  | node node =>
    rw [perform, node_eq_inTurn, findings, Node.map_reports]
    simp only [map_planned_literalFindings]
    rfl
  | file file =>
    rw [perform, file_eq_inTurn, filePlan, findings, List.map_flatMap]
    simp only [Occurrence.map_reports, map_planned_literalFindings]
    rfl

end Annotator

theorem Annotator.perform_adds (a : Annotator) (task : Task) :
    ∃ added failure,
      (∀ sink : Sink, a.perform task sink = ⟨sink ++ added.toArray, failure⟩) ∧
        ((∀ f ∈ a.findings task, ¬f.Overflows) ∧ failure = none ∧
            added = (a.findings task).map Finding.highlight ∨
          ∃ before literal found after,
            a.findings task = before ++ .tag literal found :: after ∧
              (∀ f ∈ before, ¬f.Overflows) ∧ maxOffset < found.stop + literal.span.start ∧
              failure = some (.overflow found.stop literal.span.start) ∧
              added = before.map Finding.highlight) := by
  have hhighlight : (fun f : Finding => f.planned.highlight) = Finding.highlight :=
    funext Finding.highlight_planned
  rcases forall_not_or_exists_first Finding.Overflows (a.findings task) with
    hnone | ⟨before, f, after, hsplit, hbefore, hf⟩
  · refine ⟨_, none, fun sink => ?_, .inl ⟨hnone, rfl, rfl⟩⟩
    have hfree : ∀ p ∈ (a.findings task).map Finding.planned, p.obstacle = none :=
      List.forall_mem_map.2 fun f hf => Finding.obstacle_planned_eq_none_iff.2 (hnone f hf)
    rw [perform_eq_inTurn, inTurn_add_of_free hfree, List.map_map]
    simp only [Function.comp_def, hhighlight]
  · cases f with
    | comment literal => exact hf.elim
    | tag literal found =>
      refine ⟨_, _, fun sink => ?_,
        .inr ⟨before, literal, found, after, hsplit, hbefore, hf, rfl, rfl⟩⟩
      have hfree : ∀ p ∈ before.map Finding.planned, p.obstacle = none :=
        List.forall_mem_map.2 fun f hf => Finding.obstacle_planned_eq_none_iff.2 (hbefore f hf)
      rw [perform_eq_inTurn, hsplit, List.map_append, List.map_cons,
        inTurn_add_of_split hfree (Finding.obstacle_planned_of_overflows hf), List.map_map]
      simp only [Function.comp_def, hhighlight]

end DocstringTags.Outline
