import DocstringTags.Json.Record
import DocstringTags.Json.Value
import DocstringTags.Outline.Basic

set_option autoImplicit false

namespace DocstringTags

def Span.toJson (s : Span) : Json :=
  .object [("start", .natural s.start), ("end", .natural s.stop)]

namespace Outline

def StringLiteral.members (l : StringLiteral) : List (String × Json) :=
  [("text", .string l.text), ("range", l.span.toJson)]

def Expression.toJson : Expression → Json
  | .string literal => .object (("kind", .string "string") :: literal.members)
  | .other none => .object [("kind", .string "other")]
  | .other (some span) => .object [("kind", .string "other"), ("range", span.toJson)]

mutual

def Statement.toJson : Statement → Json
  | .expression value =>
    .object [("kind", .string "expression"), ("expression", value.toJson)]
  | .assignment assignment =>
    .object [("kind", .string "assignment"),
      ("targets", .list (assignment.targets.map .string)), ("value", assignment.value.toJson)]
  | .function name body =>
    .object [("kind", .string "function"), ("name", .string name), ("body", .list (bodyJson body))]
  | .classDef name body =>
    .object [("kind", .string "class"), ("name", .string name), ("body", .list (bodyJson body))]
  | .other => .object [("kind", .string "other")]

def bodyJson : List Statement → List Json
  | [] => []
  | statement :: rest => statement.toJson :: bodyJson rest

end

def File.toJson (f : File) : Json :=
  match f.format with
  | none => .object [("body", .list (bodyJson f.body))]
  | some format => .object [("format", .string format.name), ("body", .list (bodyJson f.body))]

end Outline

open Json

structure Bounds where
  start : Option Nat := none
  stop : Option Nat := none

def readOffset : Reader Nat := readNatural maxOffset "usize"

def Bounds.record (_depth : Nat) : Record Bounds Span where
  name := "RawRange"
  empty := {}
  fields :=
    [.of "start" Bounds.start (fun b start => { b with start }) readOffset false,
     .of "end" Bounds.stop (fun b stop => { b with stop }) readOffset false]
  build b := do
    let start ← require "start" b.start
    let stop ← require "end" b.stop
    match Span.ofBounds start stop with
    | .ok span => .ok span
    | .error e => .error (.badSpan e)

def Span.read : Origin → Nat → Reader Span := Record.read Bounds.record

def Format.variants : List (String × Format) := Format.all.map fun f => (f.name, f)

def Format.read : Nat → Reader Format := readVariant Format.variants

namespace Outline

structure LiteralParts where
  text : Option String := none
  span : Option Span := none

def LiteralParts.record (depth : Nat) : Record LiteralParts StringLiteral where
  name := "RawStringLiteral"
  empty := {}
  fields :=
    [.of "text" LiteralParts.text (fun p text => { p with text }) readText false,
     .of "range" LiteralParts.span (fun p span => { p with span }) (Span.read .value depth) false]
  build p := do
    let text ← require "text" p.text
    let span ← require "range" p.span
    let size := Text.byteSize text.toList
    if span.size = size then .ok ⟨text, span⟩ else .error (.literalSize span size)

inductive ExpressionKind where
  | string
  | other
  deriving DecidableEq, Repr

def ExpressionKind.all : List (String × ExpressionKind) := [("string", .string), ("other", .other)]

def otherRecord (depth : Nat) : Record (Option (Option Span)) Expression where
  name := "Other"
  empty := none
  fields := [.of "range" id (fun _ span => span) (readOptional (Span.read .value depth)) true]
  build span := .ok (.other (span.getD none))

def Expression.read (origin : Origin) (depth : Nat) (d : Draft) : Except ReadError Expression := do
  let (kind, payload) ← readTagged "Expression" ExpressionKind.all origin depth d
  match kind with
  | .string => (payload.record (LiteralParts.record (depth - 1))).map .string
  | .other => payload.record (otherRecord (depth - 1))

inductive StatementKind where
  | expression
  | assignment
  | function
  | classDef
  | other
  deriving DecidableEq, Repr

def StatementKind.all : List (String × StatementKind) :=
  [("expression", .expression), ("assignment", .assignment), ("function", .function),
   ("class", .classDef), ("other", .other)]

def expressionRecord (depth : Nat) : Record (Option Expression) Statement where
  name := "ExpressionStatement"
  empty := none
  fields := [.of "expression" id (fun _ value => value) (Expression.read .value depth) false]
  build value := (require "expression" value).map .expression

structure AssignmentParts where
  targets : Option (List String) := none
  value : Option Expression := none

def AssignmentParts.record (depth : Nat) : Record AssignmentParts Statement where
  name := "Assignment"
  empty := {}
  fields :=
    [.of "targets" AssignmentParts.targets (fun p targets => { p with targets })
      (readList (fun _ => readText) depth) false,
     .of "value" AssignmentParts.value (fun p value => { p with value })
      (Expression.read .value depth) false]
  build p := do
    let targets ← require "targets" p.targets
    let value ← require "value" p.value
    return .assignment ⟨targets, value⟩

structure BlockParts where
  name : Option String := none
  body : Option (List Statement) := none

def BlockParts.record (name : String) (make : String → List Statement → Statement)
    (body : Reader (List Statement)) : Record BlockParts Statement where
  name := name
  empty := {}
  fields :=
    [.of "name" BlockParts.name (fun p name => { p with name }) readText false,
     .of "body" BlockParts.body (fun p body => { p with body }) body true]
  build p := do
    let name ← require "name" p.name
    return make name (p.body.getD [])

def Statement.readWith (body : Reader (List Statement)) (origin : Origin) (depth : Nat)
    (d : Draft) : Except ReadError Statement := do
  let (kind, payload) ← readTagged "Statement" StatementKind.all origin depth d
  match kind with
  | .expression => payload.record (expressionRecord (depth - 1))
  | .assignment => payload.record (AssignmentParts.record (depth - 1))
  | .function => payload.record (BlockParts.record "Function" .function body)
  | .classDef => payload.record (BlockParts.record "Class" .classDef body)
  | .other => payload.unit.map fun _ => .other

/-- Reads a statement. One level of nesting takes an object and the list in it. -/
def Statement.read (origin : Origin) : Nat → Reader Statement
  | depth + 2 =>
    readWith (readList (fun _ => Statement.read .value depth) (depth + 1)) origin (depth + 2)
  | depth => readWith (readList (fun _ _ => .error .tooDeep) (depth - 1)) origin depth

structure FileParts where
  format : Option (Option Format) := none
  body : Option (List Statement) := none

def FileParts.record (depth : Nat) : Record FileParts File where
  name := "File"
  empty := {}
  fields :=
    [.of "format" FileParts.format (fun p format => { p with format })
      (readOptional (Format.read depth)) true,
     .of "body" FileParts.body (fun p body => { p with body })
      (readList (Statement.read .text) depth) true]
  build p := .ok ⟨p.format.getD none, p.body.getD []⟩

def File.ofText (text : String) : Except ReadError File :=
  Json.read (Record.read FileParts.record .text) text

end Outline

end DocstringTags
