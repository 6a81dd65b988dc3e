import DocstringTags.Format
import DocstringTags.Span

set_option autoImplicit false

namespace DocstringTags.Outline

/-- A string literal with its quotes, and where it stands in the file. -/
structure StringLiteral where
  text : String
  span : Span
  deriving DecidableEq, Repr

def StringLiteral.ofStart (start : Nat) (text : String) : StringLiteral :=
  ⟨text, Span.ofSize start (Text.byteSize text.toList)⟩

inductive Expression where
  | string (literal : StringLiteral)
  | other (span : Option Span)
  deriving DecidableEq, Repr

def Expression.string? : Expression → Option StringLiteral
  | .string literal => some literal
  | .other _ => none

structure Assignment where
  targets : List String
  value : Expression
  deriving DecidableEq, Repr

def Assignment.assigns (a : Assignment) (name : String) : Bool := a.targets.contains name

/-- Whether a target is an attribute of `self`, and not an attribute of an attribute. -/
def isInstanceAttribute (target : String) : Bool :=
  match "self.".toList.isPrefixOf? target.toList with
  | some rest => !rest.isEmpty && !rest.contains '.'
  | none => false

def Assignment.assignsInstanceAttribute (a : Assignment) : Bool :=
  a.targets.any isInstanceAttribute

inductive Statement where
  | expression (value : Expression)
  | assignment (assignment : Assignment)
  | function (name : String) (body : List Statement)
  | classDef (name : String) (body : List Statement)
  | other
  deriving BEq, Repr

structure File where
  format : Option Format
  body : List Statement
  deriving BEq, Repr

def File.empty : File := ⟨none, []⟩

def docName : String := "__doc__"

inductive Scope where
  | file
  | classBody
  | function
  deriving DecidableEq, Repr

def Scope.name : Scope → String
  | .file => "file"
  | .classBody => "class"
  | .function => "function"

def docstring? : List Statement → Option StringLiteral
  | .expression value :: _ => value.string?
  | _ => none

/-- Whether a string documents the variables assigned just before it. In a function it does so only
for attributes of the instance. -/
def documentsVariable (scope : Scope) : Option Statement → Bool
  | some (.assignment assignment) =>
    match scope with
    | .file | .classBody => true
    | .function => assignment.assignsInstanceAttribute
  | _ => false

/-- A place that may carry documentation. An expression knows the kind of body around it and the
statement just before it in that body. -/
inductive Node where
  | file (file : File)
  | function (name : String) (body : List Statement)
  | classDef (name : String) (body : List Statement)
  | assignment (assignment : Assignment)
  | expression (value : Expression) (scope : Scope) (previous : Option Statement)

mutual

def Statement.nodes (scope : Scope) (previous : Option Statement) : Statement → List Node
  | .expression value => [.expression value scope previous]
  | .assignment assignment => [.assignment assignment]
  | .function name body => .function name body :: bodyNodes .function none body
  | .classDef name body => .classDef name body :: bodyNodes .classBody none body
  | .other => []

def bodyNodes (scope : Scope) (previous : Option Statement) : List Statement → List Node
  | [] => []
  | statement :: rest => statement.nodes scope previous ++ bodyNodes scope (some statement) rest

end

def File.walk (file : File) : List Node := .file file :: bodyNodes .file none file.body

end DocstringTags.Outline
