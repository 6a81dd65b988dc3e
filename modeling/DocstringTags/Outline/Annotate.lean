import DocstringTags.Outline.Basic
import DocstringTags.Span
import DocstringTags.Tags.Cursor

set_option autoImplicit false

namespace DocstringTags.Outline

abbrev Sink := Array Highlight

/-- A sink, and the error that ended the run if one did. -/
structure Progress where
  sink : Sink
  failure : Option OffsetError

def Progress.andThen (p : Progress) (more : Sink → Progress) : Progress :=
  match p.failure with
  | none => more p.sink
  | some _ => p

def inTurn {α : Type} (act : α → Sink → Progress) : List α → Sink → Progress
  | [], sink => ⟨sink, none⟩
  | x :: xs, sink => (act x sink).andThen (inTurn act xs)

/-- An annotator looks for the tags of one format. -/
structure Annotator where
  format : Format
  deriving DecidableEq, Repr

namespace Annotator

def forFile (file : File) (byDefault : Format) : Annotator := ⟨file.format.getD byDefault⟩

def tag (base : Nat) (found : Span) (sink : Sink) : Progress :=
  match found.shift base with
  | .ok span => ⟨sink.push ⟨span, .docCommentTag⟩, none⟩
  | .error e => ⟨sink, some e⟩

def docstring (a : Annotator) (literal : Option StringLiteral) (sink : Sink) : Progress :=
  match literal, a.format.tags? with
  | some literal, some tags =>
    inTurn (tag literal.span.start) (Cursor.ofText literal.text tags).remaining sink
  | _, _ => ⟨sink, none⟩

/-- Adds what a node documents. A string assigned to the documentation name is a whole comment. -/
def node (a : Annotator) : Node → Sink → Progress
  | .file file, sink => a.docstring (docstring? file.body) sink
  | .function _ body, sink => a.docstring (docstring? body) sink
  | .classDef _ body, sink => a.docstring (docstring? body) sink
  | .assignment assignment, sink =>
    if assignment.assigns docName then
      match assignment.value.string? with
      | some literal => a.docstring (some literal) (sink.push ⟨literal.span, .docComment⟩)
      | none => ⟨sink, none⟩
    else
      ⟨sink, none⟩
  | .expression value scope previous, sink =>
    match value.string? with
    | some literal =>
      if documentsVariable scope previous then a.docstring (some literal) sink else ⟨sink, none⟩
    | none => ⟨sink, none⟩

def file (a : Annotator) (file : File) (sink : Sink) : Progress := inTurn a.node file.walk sink

end Annotator

def annotate (file : File) (byDefault : Format) (sink : Sink) : Progress :=
  (Annotator.forFile file byDefault).file file sink

end DocstringTags.Outline
