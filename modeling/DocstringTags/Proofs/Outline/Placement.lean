import DocstringTags.Outline.Basic
import DocstringTags.Tags.Search

/-! The string literals of a file in the order of the text, each with its place, and the three places
where a literal is documentation. Main statement: `flatMap_walk`, by which the nodes of a walk report
each of these literals once and no other, though a docstring is reported by the owner of the body
and an attribute's docstring by the statement itself.
-/

set_option autoImplicit false

namespace DocstringTags.Outline

/-- Where a string literal stands: alone in a statement, after the statements `before` of the same
body, or as the value of an assignment. -/
inductive Place where
  | statement (scope : Scope) (before : List Statement)
  | value (targets : List String)

structure Occurrence where
  literal : StringLiteral
  place : Place

def Expression.occurrences (place : Place) : Expression → List Occurrence
  | .string literal => [⟨literal, place⟩]
  | .other _ => []

mutual

def Statement.occurrences (scope : Scope) (before : List Statement) :
    Statement → List Occurrence
  | .expression value => value.occurrences (.statement scope before)
  | .assignment assignment => assignment.value.occurrences (.value assignment.targets)
  | .function _ body => bodyOccurrences .function [] body
  | .classDef _ body => bodyOccurrences .classBody [] body
  | .other => []

def bodyOccurrences (scope : Scope) (before : List Statement) :
    List Statement → List Occurrence
  | [] => []
  | statement :: rest =>
    statement.occurrences scope before ++ bodyOccurrences scope (before ++ [statement]) rest

end

/-- All string literals of a file, a statement's own before those of later statements. -/
def File.occurrences (file : File) : List Occurrence := bodyOccurrences .file [] file.body

def IsInstanceAttribute (target : String) : Prop :=
  ∃ name : String, target = "self." ++ name ∧ name ≠ "" ∧ '.' ∉ name.toList

namespace Place

def OpensBody : Place → Prop
  | .statement _ before => before = []
  | .value _ => False

/-- The statement just before is an assignment whose variables may be documented here. -/
def FollowsAssignment : Place → Prop
  | .statement scope before =>
    ∃ assignment, before.getLast? = some (.assignment assignment) ∧
      (scope = .file ∨ scope = .classBody ∨
        scope = .function ∧ ∃ target ∈ assignment.targets, IsInstanceAttribute target)
  | .value _ => False

def IsDocValue : Place → Prop
  | .statement _ _ => False
  | .value targets => "__doc__" ∈ targets

end Place

theorem isInstanceAttribute_iff {target : String} :
    isInstanceAttribute target = true ↔ IsInstanceAttribute target := by
  unfold isInstanceAttribute
  constructor
  · intro h
    split at h
    · next rest hp =>
      refine ⟨String.ofList rest, ?_, ?_, ?_⟩
      · rw [← String.toList_inj, isPrefixOf?_eq_some_iff.1 hp]
        simp
      · simp_all
      · simp_all
    · simp at h
  · intro h
    obtain ⟨name, rfl, hne, hdot⟩ := h
    have hp : "self.".toList.isPrefixOf? ("self." ++ name).toList = some name.toList :=
      isPrefixOf?_eq_some_iff.2 String.toList_append
    rw [hp]
    simp_all

theorem documentsVariable_iff {scope : Scope} {before : List Statement} :
    documentsVariable scope before.getLast? = true ↔
      (Place.statement scope before).FollowsAssignment := by
  unfold documentsVariable
  constructor
  · intro h
    split at h
    · next assignment hlast =>
      refine ⟨assignment, hlast, ?_⟩
      cases scope with
      | file => simp
      | classBody => simp
      | function =>
        simpa [Assignment.assignsInstanceAttribute, isInstanceAttribute_iff] using h
    · simp at h
  · intro h
    obtain ⟨assignment, hlast, hscope⟩ := h
    rw [hlast]
    cases scope with
    | file => rfl
    | classBody => rfl
    | function =>
      simpa [Assignment.assignsInstanceAttribute, isInstanceAttribute_iff] using hscope

theorem Assignment.assigns_iff {assignment : Assignment} :
    assignment.assigns docName = true ↔ (Place.value assignment.targets).IsDocValue := by
  simp [Assignment.assigns, Place.IsDocValue, docName]

instance (place : Place) : Decidable place.OpensBody :=
  match place with
  | .statement _ [] => .isTrue rfl
  | .statement _ (_ :: _) => .isFalse nofun
  | .value _ => .isFalse id

instance (place : Place) : Decidable place.FollowsAssignment :=
  match place with
  | .statement _ _ => decidable_of_iff _ documentsVariable_iff
  | .value _ => .isFalse id

instance (place : Place) : Decidable place.IsDocValue :=
  match place with
  | .statement _ _ => .isFalse id
  | .value targets => inferInstanceAs (Decidable ("__doc__" ∈ targets))

section
variable {α : Type} (comment : StringLiteral → α) (tags : StringLiteral → List α)

/-- What a literal adds at its place: the comment and the tags of a value of the documentation name,
the tags of another docstring, and else nothing. -/
def Occurrence.reports (o : Occurrence) : List α :=
  if o.place.IsDocValue then comment o.literal :: tags o.literal
  else if o.place.OpensBody ∨ o.place.FollowsAssignment then tags o.literal
  else []

theorem Occurrence.map_reports {β : Type} (f : α → β) (o : Occurrence) :
    (o.reports comment tags).map f =
      o.reports (fun literal => f (comment literal)) fun literal => (tags literal).map f := by
  by_cases hvalue : o.place.IsDocValue
  · simp [reports, hvalue]
  · by_cases hplace : o.place.OpensBody ∨ o.place.FollowsAssignment <;>
      simp [reports, hvalue, hplace]

theorem Occurrence.mem_reports {o : Occurrence} {x : α} (h : x ∈ o.reports comment tags) :
    x = comment o.literal ∨ x ∈ tags o.literal := by
  by_cases hvalue : o.place.IsDocValue
  · simpa [reports, hvalue] using h
  · by_cases hplace : o.place.OpensBody ∨ o.place.FollowsAssignment
    · exact .inr (by simpa [reports, hvalue, hplace] using h)
    · simp [reports, hvalue, hplace] at h

def Node.reports : Node → List α
  | .file outline => (docstring? outline.body).toList.flatMap tags
  | .function _ body => (docstring? body).toList.flatMap tags
  | .classDef _ body => (docstring? body).toList.flatMap tags
  | .assignment a =>
    if a.assigns docName then
      match a.value with
      | .string literal => comment literal :: tags literal
      | .other _ => []
    else []
  | .expression (.string literal) scope previous =>
    if documentsVariable scope previous then tags literal else []
  | .expression (.other _) _ _ => []

theorem Node.map_reports {β : Type} (f : α → β) (node : Node) :
    (node.reports comment tags).map f =
      node.reports (fun literal => f (comment literal)) fun literal => (tags literal).map f := by
  cases node with
  | file outline => simp [reports, List.map_flatMap]
  | function name body => simp [reports, List.map_flatMap]
  | classDef name body => simp [reports, List.map_flatMap]
  | assignment a =>
    by_cases hdoc : a.assigns docName = true
    · cases hvalue : a.value <;> simp [reports, hdoc, hvalue]
    · simp [reports, hdoc]
  | expression value scope previous =>
    cases value with
    | other span => rfl
    | string literal => by_cases hvar : documentsVariable scope previous <;> simp [reports, hvar]

/-- What the owner of a body adds, as long as none of its statements has been passed. -/
def ownerReports : List Statement → List Statement → List α
  | [], body => (docstring? body).toList.flatMap tags
  | _ :: _, _ => []

theorem ownerReports_append (before : List Statement) (statement : Statement)
    (body : List Statement) : ownerReports tags (before ++ [statement]) body = [] := by
  cases before <;> rfl

theorem ownerReports_cons (before : List Statement) (statement : Statement)
    (rest : List Statement) :
    ownerReports tags before (statement :: rest) = ownerReports tags before [statement] := by
  cases before with
  | nil => cases statement <;> rfl
  | cons _ _ => rfl

theorem ownerReports_eq_nil (before : List Statement) (statement : Statement)
    (h : docstring? [statement] = none) : ownerReports tags before [statement] = [] := by
  cases before with
  | nil => simp [ownerReports, h]
  | cons _ _ => rfl

theorem reports_expression (scope : Scope) (before : List Statement) (value : Expression) :
    ownerReports tags before [.expression value] ++
        (Node.expression value scope before.getLast?).reports comment tags =
      (value.occurrences (.statement scope before)).flatMap (Occurrence.reports comment tags) := by
  cases value with
  | other span => cases before <;> simp [ownerReports, docstring?, Expression.string?,
      Expression.occurrences, Node.reports]
  | string literal =>
    cases before with
    | nil =>
      -- the owner of the body reports the literal, so the statement must not do it again
      simp [ownerReports, docstring?, Expression.string?, Expression.occurrences, Node.reports,
        Occurrence.reports, Place.IsDocValue, Place.OpensBody, documentsVariable]
    | cons first before =>
      simp [ownerReports, Expression.occurrences, Node.reports, Occurrence.reports,
        Place.IsDocValue, Place.OpensBody, documentsVariable_iff]

theorem reports_assignment (assignment : Assignment) :
    (Node.assignment assignment).reports comment tags =
      (assignment.value.occurrences (.value assignment.targets)).flatMap
        (Occurrence.reports comment tags) := by
  simp only [Node.reports, Assignment.assigns_iff]
  cases assignment.value with
  | other span => simp [Expression.occurrences]
  | string literal =>
    simp [Expression.occurrences, Occurrence.reports, Place.OpensBody, Place.FollowsAssignment]

mutual

theorem Statement.flatMap_nodes (scope : Scope) (before : List Statement) :
    (statement : Statement) →
      ownerReports tags before [statement] ++
          (statement.nodes scope before.getLast?).flatMap (Node.reports comment tags) =
        (statement.occurrences scope before).flatMap (Occurrence.reports comment tags)
  | .expression value => by
    simpa [Statement.nodes, Statement.occurrences] using
      reports_expression comment tags scope before value
  | .assignment assignment => by
    have howner := ownerReports_eq_nil tags before (.assignment assignment) rfl
    simpa [Statement.nodes, Statement.occurrences, howner] using
      reports_assignment comment tags assignment
  | .function name body => by
    have howner := ownerReports_eq_nil tags before (.function name body) rfl
    have hbody : (docstring? body).toList.flatMap tags ++ _ = _ :=
      flatMap_bodyNodes .function [] body
    simpa [Statement.nodes, Statement.occurrences, howner, Node.reports] using hbody
  | .classDef name body => by
    have howner := ownerReports_eq_nil tags before (.classDef name body) rfl
    have hbody : (docstring? body).toList.flatMap tags ++ _ = _ :=
      flatMap_bodyNodes .classBody [] body
    simpa [Statement.nodes, Statement.occurrences, howner, Node.reports] using hbody
  | .other => by
    have howner := ownerReports_eq_nil tags before .other rfl
    simp [Statement.nodes, Statement.occurrences, howner]

theorem flatMap_bodyNodes (scope : Scope) (before : List Statement) :
    (body : List Statement) →
      ownerReports tags before body ++
          (bodyNodes scope before.getLast? body).flatMap (Node.reports comment tags) =
        (bodyOccurrences scope before body).flatMap (Occurrence.reports comment tags)
  | [] => by cases before <;> simp [bodyNodes, bodyOccurrences, ownerReports, docstring?]
  | statement :: rest => by
    have hone := statement.flatMap_nodes scope before
    have hrest := flatMap_bodyNodes scope (before ++ [statement]) rest
    rw [ownerReports_append, List.nil_append, List.getLast?_concat] at hrest
    rw [ownerReports_cons, bodyNodes, bodyOccurrences, List.flatMap_append, List.flatMap_append,
      ← hone, ← hrest, List.append_assoc]

end

theorem File.flatMap_walk (file : File) :
    file.walk.flatMap (Node.reports comment tags) =
      file.occurrences.flatMap (Occurrence.reports comment tags) :=
  flatMap_bodyNodes comment tags .file [] file.body

end

end DocstringTags.Outline
