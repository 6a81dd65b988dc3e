import DocstringTags.Outline.Json
import DocstringTags.Proofs.Json.Record
import DocstringTags.Proofs.Outline.Plan

set_option autoImplicit false

namespace DocstringTags

open Json

def Span.IsValid (s : Span) : Prop := s.start ≤ s.stop ∧ s.stop ≤ maxOffset

theorem Bounds.ensures_isValid (depth : Nat) :
    (Bounds.record depth).Ensures (fun b => IfFilled (· ≤ maxOffset) b.stop) Span.IsValid where
  empty := .none
  fill := List.forall_mem_cons.2
    ⟨Field.keeps_of_other fun _ _ h => h,
      List.forall_mem_singleton.2
        (Field.keeps_of (yields_readNatural maxOffset "usize") fun _ _ _ h => .some h)⟩
  build b hb := by
    refine (Yields.any _).bind fun start _ => (yields_require _ hb).bind fun stop hstop => ?_
    split
    · next span hspan =>
      obtain ⟨hle, rfl⟩ := Span.ofBounds_eq_ok_iff.1 hspan
      exact .ok ⟨hle, hstop⟩
    · exact .error _

theorem Span.yields_read (origin : Origin) (depth : Nat) (d : Draft) :
    Yields (Span.read origin depth d) Span.IsValid :=
  Record.yields_read Bounds.ensures_isValid origin depth d

namespace Outline

theorem LiteralParts.ensures_fits (depth : Nat) :
    (LiteralParts.record depth).Ensures (fun p => IfFilled Span.IsValid p.span) StringLiteral.Fits where
  empty := .none
  fill := List.forall_mem_cons.2
    ⟨Field.keeps_of_other fun _ _ h => h,
      List.forall_mem_singleton.2
        (Field.keeps_of (Span.yields_read .value depth) fun _ _ _ h => .some h)⟩
  build p hp := by
    refine (Yields.any _).bind fun text _ => (yields_require _ hp).bind fun span hspan => ?_
    by_cases hsize : span.size = Text.byteSize text.toList
    · simp only [hsize, if_true]
      rw [Span.size, Text.byteSize_toList] at hsize
      exact .ok ⟨hspan.1, hsize, hspan.2⟩
    · simp only [hsize, if_false]
      exact .error _

def Expression.Fits (value : Expression) : Prop :=
  ∀ place, ∀ o ∈ value.occurrences place, o.literal.Fits

def Statement.Fits (statement : Statement) : Prop :=
  ∀ scope before, ∀ o ∈ statement.occurrences scope before, o.literal.Fits

def BodyFits (body : List Statement) : Prop := ∀ statement ∈ body, statement.Fits

theorem Expression.fits_string {literal : StringLiteral} (h : literal.Fits) :
    (Expression.string literal).Fits := by
  intro place o ho
  obtain rfl : o = ⟨literal, place⟩ := by simpa [occurrences] using ho
  exact h

theorem Expression.fits_other (span : Option Span) : (Expression.other span).Fits := by
  intro place o ho
  simp [occurrences] at ho

theorem BodyFits.nil : BodyFits [] := by simp [BodyFits]

theorem BodyFits.occurrences {body : List Statement} (h : BodyFits body) (scope : Scope)
    (before : List Statement) : ∀ o ∈ bodyOccurrences scope before body, o.literal.Fits := by
  induction body generalizing before with
  | nil => simp [bodyOccurrences]
  | cons statement rest ih =>
    obtain ⟨hone, hrest⟩ := List.forall_mem_cons.1 h
    rw [bodyOccurrences, List.forall_mem_append]
    exact ⟨hone scope before, ih hrest _⟩

theorem otherRecord_ensures_fits (depth : Nat) :
    (otherRecord depth).Ensures (fun _ => True) Expression.Fits where
  empty := trivial
  fill _ _ _ _ _ := .any _
  build _ _ := .ok (Expression.fits_other _)

theorem Expression.yields_read (origin : Origin) (depth : Nat) (d : Draft) :
    Yields (Expression.read origin depth d) Expression.Fits := by
  refine (Yields.any _).bind fun found _ => ?_
  obtain ⟨kind, payload⟩ := found
  cases kind with
  | string =>
    exact ((LiteralParts.ensures_fits (depth - 1)).yields_payload payload).map fun _ h =>
      fits_string h
  | other => exact (otherRecord_ensures_fits (depth - 1)).yields_payload payload

theorem expressionRecord_ensures_fits (depth : Nat) :
    (expressionRecord depth).Ensures (IfFilled Expression.Fits) Statement.Fits where
  empty := .none
  fill := List.forall_mem_singleton.2
    (Field.keeps_of (Expression.yields_read .value depth) fun _ _ _ h => .some h)
  build _ h := (yields_require _ h).map fun _ hvalue scope before =>
    hvalue (.statement scope before)

theorem AssignmentParts.ensures_fits (depth : Nat) :
    (AssignmentParts.record depth).Ensures (fun p => IfFilled Expression.Fits p.value)
      Statement.Fits where
  empty := .none
  fill := List.forall_mem_cons.2
    ⟨Field.keeps_of_other fun _ _ h => h,
      List.forall_mem_singleton.2
        (Field.keeps_of (Expression.yields_read .value depth) fun _ _ _ h => .some h)⟩
  build _ hp :=
    (Yields.any _).bind fun targets _ => (yields_require _ hp).bind fun _ hvalue =>
      .ok fun _ _ => hvalue (.value targets)

theorem BlockParts.ensures_fits {name : String} {make : String → List Statement → Statement}
    {body : Reader (List Statement)} (hbody : ∀ d, Yields (body d) BodyFits)
    (hmake : ∀ name body, BodyFits body → (make name body).Fits) :
    (BlockParts.record name make body).Ensures (fun p => IfFilled BodyFits p.body)
      Statement.Fits where
  empty := .none
  fill := List.forall_mem_cons.2
    ⟨Field.keeps_of_other fun _ _ h => h,
      List.forall_mem_singleton.2 (Field.keeps_of hbody fun _ _ _ h => .some h)⟩
  build _ h := (Yields.any _).bind fun name _ => .ok (hmake name _ (h.getD .nil))

theorem Statement.yields_readWith {body : Reader (List Statement)}
    (hbody : ∀ d, Yields (body d) BodyFits) (origin : Origin) (depth : Nat) (d : Draft) :
    Yields (Statement.readWith body origin depth d) Statement.Fits := by
  refine (Yields.any _).bind fun found _ => ?_
  obtain ⟨kind, payload⟩ := found
  cases kind with
  | expression => exact (expressionRecord_ensures_fits (depth - 1)).yields_payload payload
  | assignment => exact (AssignmentParts.ensures_fits (depth - 1)).yields_payload payload
  | function =>
    have hmake : ∀ name body, BodyFits body → (Statement.function name body).Fits :=
      fun _ _ h _ _ => h.occurrences .function []
    exact (BlockParts.ensures_fits hbody hmake).yields_payload payload
  | classDef =>
    have hmake : ∀ name body, BodyFits body → (Statement.classDef name body).Fits :=
      fun _ _ h _ _ => h.occurrences .classBody []
    exact (BlockParts.ensures_fits hbody hmake).yields_payload payload
  | other =>
    refine (Yields.any _).map fun _ _ scope before o ho => ?_
    simp [occurrences] at ho

/-- A statement is read two levels at a time, down to where no list may be open any more. -/
theorem Statement.yields_read (origin : Origin) :
    (depth : Nat) → (d : Draft) → Yields (Statement.read origin depth d) Statement.Fits
  | depth + 2, d => yields_readWith
      (yields_readList (fun _ => yields_read .value depth) (depth + 1)) origin (depth + 2) d
  | 0, d => yields_readWith (yields_readList (fun _ _ => .error _) _) origin 0 d
  | 1, d => yields_readWith (yields_readList (fun _ _ => .error _) _) origin 1 d

theorem FileParts.ensures_fits (depth : Nat) :
    (FileParts.record depth).Ensures (fun p => IfFilled BodyFits p.body)
      (fun file => ∀ o ∈ file.occurrences, o.literal.Fits) where
  empty := .none
  fill := List.forall_mem_cons.2
    ⟨Field.keeps_of_other fun _ _ h => h,
      List.forall_mem_singleton.2
        (Field.keeps_of (yields_readList (Statement.yields_read .text) depth)
          fun _ _ _ h => .some h)⟩
  build _ h := .ok ((h.getD BodyFits.nil).occurrences .file [])

theorem File.yields_ofText (text : String) :
    Yields (File.ofText text) fun file => ∀ o ∈ file.occurrences, o.literal.Fits :=
  read_yields (Record.yields_read FileParts.ensures_fits .text) text

end Outline

end DocstringTags
