import DocstringTags.Proofs.Outline.Plan
import Mathlib.Data.List.Forall2

/-! Files that are moved. A file is moved by the shift of every span in it; which literals are
documentation does not change by that, so the plan for the moved file is the plan for the file with
each highlight shifted, and it meets an obstacle wherever the other does. Main statements:
`shiftBody_occurrences` for the places, `Annotator.literalPlan_shift` for the tags, and
`Annotator.file_shift`.
-/

set_option autoImplicit false

namespace DocstringTags

def Highlight.shift (h : Highlight) (delta : Nat) : Except OffsetError Highlight :=
  (h.span.shift delta).map fun span => { h with span }

namespace Outline

def StringLiteral.shift (literal : StringLiteral) (delta : Nat) :
    Except OffsetError StringLiteral :=
  (literal.span.shift delta).map fun span => { literal with span }

def Expression.shift (delta : Nat) : Expression → Except OffsetError Expression
  | .string literal => (literal.shift delta).map .string
  | .other none => .ok (.other none)
  | .other (some span) => (span.shift delta).map fun span => .other (some span)

mutual

def Statement.shift (delta : Nat) : Statement → Except OffsetError Statement
  | .expression value => (value.shift delta).map .expression
  | .assignment assignment =>
    (assignment.value.shift delta).map fun value => .assignment { assignment with value }
  | .function name body => (shiftBody delta body).map (.function name)
  | .classDef name body => (shiftBody delta body).map (.classDef name)
  | .other => .ok .other

def shiftBody (delta : Nat) : List Statement → Except OffsetError (List Statement)
  | [] => .ok []
  | statement :: rest => do
    let statement ← statement.shift delta
    let rest ← shiftBody delta rest
    return statement :: rest

end

/-- The file with every span in it shifted. It fails where one of them cannot be. -/
def File.shift (file : File) (delta : Nat) : Except OffsetError File :=
  (shiftBody delta file.body).map fun body => { file with body }

theorem map_eq_ok_iff {ε α β : Type} {found : Except ε α} {f : α → β} {y : β} :
    found.map f = .ok y ↔ ∃ x, found = .ok x ∧ f x = y := by
  cases found <;> simp [Except.map]

section
variable {delta : Nat}

theorem shiftBody_cons_eq_ok_iff {statement : Statement} {rest moved : List Statement} :
    shiftBody delta (statement :: rest) = .ok moved ↔
      ∃ first later, statement.shift delta = .ok first ∧ shiftBody delta rest = .ok later ∧
        moved = first :: later := by
  rw [shiftBody]
  cases statement.shift delta <;> cases shiftBody delta rest <;>
    simp [bind, Except.bind, pure, Except.pure, eq_comm]

theorem Highlight.shift_eq_ok {h : Highlight} {span : Span} (hspan : h.span.shift delta = .ok span) :
    h.shift delta = .ok ⟨span, h.style⟩ := by
  rw [Highlight.shift, hspan]
  rfl

/-! ## Plans -/

/-- The second goes ahead only where the first one does, and then at its shifted place. -/
def Planned.ShiftsTo (delta : Nat) (p moved : Planned) : Prop :=
  moved.obstacle = none → p.obstacle = none ∧ p.highlight.shift delta = .ok moved.highlight

theorem StringLiteral.shift_eq_ok_iff {literal moved : StringLiteral} :
    literal.shift delta = .ok moved ↔
      literal.span.shift delta = .ok moved.span ∧ moved.text = literal.text := by
  rw [shift, map_eq_ok_iff]
  constructor
  · intro h
    obtain ⟨span, hspan, rfl⟩ := h
    exact ⟨hspan, rfl⟩
  · intro h
    obtain ⟨hspan, htext⟩ := h
    exact ⟨moved.span, hspan, by rw [← htext]⟩

theorem Planned.shiftsTo_comment {literal moved : StringLiteral}
    (h : literal.shift delta = .ok moved) : ShiftsTo delta (comment literal) (comment moved) := by
  intro _
  obtain ⟨hspan, -⟩ := StringLiteral.shift_eq_ok_iff.1 h
  exact ⟨rfl, Highlight.shift_eq_ok hspan⟩

theorem Planned.shiftsTo_tag {found : Span} (h : found.start ≤ found.stop) (base : Nat) :
    ShiftsTo delta (tag base found) (tag (base + delta) found) := by
  intro hfree
  have hstop : found.stop + (base + delta) ≤ maxOffset := by
    by_contra hover
    simp [tag, hover] at hfree
  have hbase : found.stop + base ≤ maxOffset := by omega
  have hspan : (found.move base).shift delta = .ok (found.move (base + delta)) := by
    rw [Span.shift_eq_ok_iff]
    simp only [Span.move, Span.mk.injEq]
    omega
  exact ⟨by simp [tag, hbase], Highlight.shift_eq_ok hspan⟩

theorem Annotator.literalPlan_shift (a : Annotator) {literal moved : StringLiteral}
    (h : literal.shift delta = .ok moved) :
    List.Forall₂ (Planned.ShiftsTo delta) (a.literalPlan literal) (a.literalPlan moved) := by
  obtain ⟨hspan, htext⟩ := StringLiteral.shift_eq_ok_iff.1 h
  have hstart : moved.span.start = literal.span.start + delta := by
    rw [(Span.shift_eq_ok_iff.1 hspan).2.2]
  have htags : a.literalTags moved = a.literalTags literal := by
    rw [literalTags, literalTags, htext]
  rw [literalPlan, literalPlan, htags, hstart, List.forall₂_map_left_iff,
    List.forall₂_map_right_iff, List.forall₂_same]
  intro found hfound
  exact Planned.shiftsTo_tag (Nat.le_of_lt (a.literalTags_bounds hfound).1) _

/-- A plan that meets no obstacle is the shifted one of a plan that meets none either. -/
theorem free_of_shiftsTo {plan moved : List Planned}
    (h : List.Forall₂ (Planned.ShiftsTo delta) plan moved)
    (hfree : ∀ p ∈ moved, p.obstacle = none) :
    (∀ p ∈ plan, p.obstacle = none) ∧
      List.Forall₂ (fun before after : Highlight => before.shift delta = .ok after)
        (plan.map (·.highlight)) (moved.map (·.highlight)) := by
  induction h with
  | nil => exact ⟨nofun, .nil⟩
  | cons hp _ ih =>
    obtain ⟨hhead, htail⟩ := List.forall_mem_cons.1 hfree
    obtain ⟨hfirst, hshift⟩ := hp hhead
    obtain ⟨hrest, hshifts⟩ := ih htail
    exact ⟨List.forall_mem_cons.2 ⟨hfirst, hrest⟩, .cons hshift hshifts⟩

/-! ## Places -/

/-- A literal is documentation at both places or at none of them, and for the same reason. -/
structure Place.Agrees (place moved : Place) : Prop where
  isDocValue : moved.IsDocValue ↔ place.IsDocValue
  opensBody : moved.OpensBody ↔ place.OpensBody
  followsAssignment : moved.FollowsAssignment ↔ place.FollowsAssignment

structure Occurrence.ShiftsTo (delta : Nat) (o moved : Occurrence) : Prop where
  literal : o.literal.shift delta = .ok moved.literal
  place : o.place.Agrees moved.place

/-- The next statement stands at places that agree. -/
structure FrontsAgree (before moved : List Statement) : Prop where
  nil_iff : moved = [] ↔ before = []
  documents (scope : Scope) :
    documentsVariable scope moved.getLast? = documentsVariable scope before.getLast?

theorem Place.Agrees.refl (place : Place) : place.Agrees place := ⟨.rfl, .rfl, .rfl⟩

theorem FrontsAgree.nil : FrontsAgree [] [] := ⟨.rfl, fun _ => rfl⟩

theorem FrontsAgree.statement {before moved : List Statement} (h : FrontsAgree before moved)
    (scope : Scope) : (Place.statement scope before).Agrees (.statement scope moved) where
  isDocValue := .rfl
  opensBody := h.nil_iff
  followsAssignment := by rw [← documentsVariable_iff, ← documentsVariable_iff, h.documents]

theorem documentsVariable_shift {statement moved : Statement}
    (h : statement.shift delta = .ok moved) (scope : Scope) :
    documentsVariable scope (some moved) = documentsVariable scope (some statement) := by
  cases statement with
  | expression value =>
    obtain ⟨value, -, rfl⟩ := map_eq_ok_iff.1 h
    rfl
  | assignment assignment =>
    obtain ⟨value, -, rfl⟩ := map_eq_ok_iff.1 h
    rfl
  | function name body =>
    obtain ⟨body, -, rfl⟩ := map_eq_ok_iff.1 h
    rfl
  | classDef name body =>
    obtain ⟨body, -, rfl⟩ := map_eq_ok_iff.1 h
    rfl
  | other =>
    cases h
    rfl

theorem FrontsAgree.concat {before movedBefore : List Statement} {statement moved : Statement}
    (h : statement.shift delta = .ok moved) :
    FrontsAgree (before ++ [statement]) (movedBefore ++ [moved]) where
  nil_iff := by simp
  documents scope := by
    rw [List.getLast?_concat, List.getLast?_concat, documentsVariable_shift h]

theorem Expression.occurrences_shift {value moved : Expression} {place movedPlace : Place}
    (h : value.shift delta = .ok moved) (hplace : place.Agrees movedPlace) :
    List.Forall₂ (Occurrence.ShiftsTo delta) (value.occurrences place)
      (moved.occurrences movedPlace) := by
  cases value with
  | string literal =>
    obtain ⟨literal, hliteral, rfl⟩ := map_eq_ok_iff.1 h
    exact .cons ⟨hliteral, hplace⟩ .nil
  | other span =>
    cases span with
    | none =>
      cases h
      exact .nil
    | some span =>
      obtain ⟨span, -, rfl⟩ := map_eq_ok_iff.1 h
      exact .nil

mutual

theorem Statement.occurrences_shift (scope : Scope) {before movedBefore : List Statement}
    (hfront : FrontsAgree before movedBefore) :
    (statement : Statement) → {moved : Statement} → statement.shift delta = .ok moved →
      List.Forall₂ (Occurrence.ShiftsTo delta) (statement.occurrences scope before)
        (moved.occurrences scope movedBefore)
  | .expression value, _, h => by
    obtain ⟨moved, hvalue, rfl⟩ := map_eq_ok_iff.1 h
    exact Expression.occurrences_shift hvalue (hfront.statement scope)
  | .assignment assignment, _, h => by
    obtain ⟨moved, hvalue, rfl⟩ := map_eq_ok_iff.1 h
    exact Expression.occurrences_shift hvalue (.refl _)
  | .function _ body, _, h => by
    obtain ⟨moved, hbody, rfl⟩ := map_eq_ok_iff.1 h
    exact bodyOccurrences_shift .function .nil body hbody
  | .classDef _ body, _, h => by
    obtain ⟨moved, hbody, rfl⟩ := map_eq_ok_iff.1 h
    exact bodyOccurrences_shift .classBody .nil body hbody
  | .other, _, h => by
    cases h
    exact .nil

theorem bodyOccurrences_shift (scope : Scope) {before movedBefore : List Statement}
    (hfront : FrontsAgree before movedBefore) :
    (body : List Statement) → {moved : List Statement} → shiftBody delta body = .ok moved →
      List.Forall₂ (Occurrence.ShiftsTo delta) (bodyOccurrences scope before body)
        (bodyOccurrences scope movedBefore moved)
  | [], _, h => by
    cases h
    exact .nil
  | statement :: rest, _, h => by
    obtain ⟨first, later, hfirst, hlater, rfl⟩ := shiftBody_cons_eq_ok_iff.1 h
    exact List.rel_append (statement.occurrences_shift scope hfront hfirst)
      (bodyOccurrences_shift scope (.concat hfirst) rest hlater)

end

theorem Occurrence.ShiftsTo.reports {o moved : Occurrence} (a : Annotator)
    (h : o.ShiftsTo delta moved) :
    List.Forall₂ (Planned.ShiftsTo delta) (o.reports Planned.comment a.literalPlan)
      (moved.reports Planned.comment a.literalPlan) := by
  have htags := a.literalPlan_shift h.literal
  simp only [Occurrence.reports, h.place.isDocValue, h.place.opensBody,
    h.place.followsAssignment]
  split
  · exact .cons (Planned.shiftsTo_comment h.literal) htags
  · split
    · exact htags
    · exact .nil

theorem Annotator.filePlan_shift (a : Annotator) {file moved : File}
    (h : file.shift delta = .ok moved) :
    List.Forall₂ (Planned.ShiftsTo delta) (a.filePlan file) (a.filePlan moved) := by
  obtain ⟨body, hbody, rfl⟩ := map_eq_ok_iff.1 h
  exact List.rel_flatMap (bodyOccurrences_shift .file .nil file.body hbody)
    fun _ _ ho => ho.reports a

end

theorem Annotator.file_shift (a : Annotator) (file moved : File) (delta : Nat) (sink : Sink)
    (hshift : file.shift delta = .ok moved) (h : (a.file moved sink).failure = none) :
    ∃ added later : List Highlight,
      List.Forall₂ (fun before after : Highlight => before.shift delta = .ok after) added later ∧
        (∀ sink : Sink, a.file file sink = ⟨sink ++ added.toArray, none⟩) ∧
        ∀ sink : Sink, a.file moved sink = ⟨sink ++ later.toArray, none⟩ := by
  rw [file_eq_inTurn] at h
  have hfree := free_of_failure_eq_none h
  obtain ⟨hfile, hshifted⟩ := free_of_shiftsTo (a.filePlan_shift hshift) hfree
  refine ⟨_, _, hshifted, fun sink => ?_, fun sink => ?_⟩
  · rw [file_eq_inTurn, inTurn_add_of_free hfile]
  · rw [file_eq_inTurn, inTurn_add_of_free hfree]

def variableOutline (offset : Nat) : File where
  format := none
  body :=
    [.assignment ⟨["x"], .other (some ⟨offset + 4, offset + 5⟩)⟩,
     .expression (.string ⟨":type é", ⟨offset + 6, offset + 14⟩⟩),
     .function "f" [.assignment ⟨["__doc__"], .string ⟨"ü :param x", ⟨offset + 20, offset + 31⟩⟩⟩]]

theorem Annotator.file_shift_to_last_offset :
    (variableOutline 0).shift (maxOffset - 31) = .ok (variableOutline (maxOffset - 31)) ∧
      ((⟨.rest⟩ : Annotator).file (variableOutline (maxOffset - 31)) #[]).failure = none ∧
      ∃ added later : List Highlight,
        List.Forall₂ (fun before after : Highlight =>
          before.shift (maxOffset - 31) = .ok after) added later ∧
        (∀ sink : Sink,
          (⟨.rest⟩ : Annotator).file (variableOutline 0) sink = ⟨sink ++ added.toArray, none⟩) ∧
        ∀ sink : Sink, (⟨.rest⟩ : Annotator).file (variableOutline (maxOffset - 31)) sink =
          ⟨sink ++ later.toArray, none⟩ :=
  have hshift : (variableOutline 0).shift (maxOffset - 31) =
      .ok (variableOutline (maxOffset - 31)) := rfl
  have hfits : ∀ o ∈ (variableOutline (maxOffset - 31)).occurrences, o.literal.Fits := by decide
  have h : ((⟨.rest⟩ : Annotator).file (variableOutline (maxOffset - 31)) #[]).failure = none := by
    rw [Annotator.file_eq_of_fits _ _ hfits]
  ⟨hshift, h, Annotator.file_shift ⟨.rest⟩ (variableOutline 0) _ _ #[] hshift h⟩

end Outline

end DocstringTags
