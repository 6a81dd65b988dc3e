import DocstringTags.Failure
import DocstringTags.Outline.Annotate
import DocstringTags.Outline.Json
import DocstringTags.Span
import DocstringTags.Tags.Cursor
import DocstringTags.Text.Bytes

set_option autoImplicit false

namespace DocstringTags.Report

def schemaVersion : String := "1"

/-- A highlight in a report, with its place and text where the source is known. -/
structure Entry where
  start : Nat
  stop : Nat
  style : Style
  line : Option Nat := none
  column : Option Nat := none
  text : Option String := none
  deriving DecidableEq, Repr

def Entry.ofHighlight (h : Highlight) : Entry :=
  { start := h.span.start, stop := h.span.stop, style := h.style }

/-- Adds place and text from a source that begins at offset `base`. An offset before the source counts
as its beginning. The text is left out where the span then does not lie on characters of it. -/
def Entry.locate (e : Entry) (source : String) (base : Nat) : Entry :=
  let place := Text.positionAt source.toList (e.start - base)
  { e with
    line := some place.line
    column := some place.column
    text := (Text.slice? source.toList (e.start - base) (e.stop - base)).map String.ofList }

structure Highlights where
  status : String
  version : String
  format : String
  formatSource : String
  entries : List Entry
  deriving DecidableEq, Repr

def Highlights.ok (format formatSource : String) (entries : List Entry) : Highlights :=
  ⟨"ok", schemaVersion, format, formatSource, entries⟩

structure Quote where
  status : String
  version : String
  literal : String
  deriving DecidableEq, Repr

def Quote.ok (literal : String) : Quote := ⟨"ok", schemaVersion, literal⟩

structure ErrorInfo where
  code : Nat
  message : String
  details : Option Json
  deriving BEq, Repr

structure Error where
  status : String
  version : String
  info : ErrorInfo
  deriving BEq, Repr

def ErrorInfo.ofFailure (f : Failure) : ErrorInfo := ⟨f.code.value, f.message, f.details?⟩

def Error.ofFailure (f : Failure) : Error := ⟨"error", schemaVersion, ErrorInfo.ofFailure f⟩

/-- The tags to look for: those that the user names, or else those of the format. -/
def selectTags (format : Format) (custom : List String) (wordEnd : Bool) : Option TagSet :=
  match custom with
  | [] => format.tags?
  | tokens => some (TagSet.ofTokens tokens (if wordEnd then .wordEnd else .any))

def tagEntry (text : String) (base : Nat) (found : Span) : Except OffsetError Entry :=
  (found.shift base).map fun span => (Entry.ofHighlight ⟨span, .docCommentTag⟩).locate text base

def scan (text : String) (tags : Option TagSet) (start base : Nat) :
    Except Failure (List Entry) :=
  match tags with
  | none => .ok []
  | some tags =>
    ((findAll text start tags).bind fun spans => spans.mapM (tagEntry text base)).mapError
      Failure.ofOffsetError

/-- The report on a text. Tags that the user names make a format of their own. -/
def scanReport (config : Config) (custom : List String) (wordEnd : Bool) (start : Nat)
    (text : String) : Except Failure Highlights := do
  let format := config.format.value
  let entries ← scan text (selectTags format custom wordEnd) start config.baseOffset.value
  return if custom.isEmpty then .ok format.name config.format.source.name entries
    else .ok "custom" "cli" entries

open Outline

def formatOrigin (file : File) (config : Config) : String :=
  match file.format with
  | some _ => "file"
  | none => config.format.source.name

def annotateReport (config : Config) (outline : String) : Except Failure Highlights := do
  let file ← (File.ofText outline).mapError Failure.ofReadError
  let annotator := Annotator.forFile file config.format.value
  let progress := annotator.file file #[]
  match progress.failure with
  | some e => .error (.ofOffsetError e)
  | none =>
    return .ok annotator.format.name (formatOrigin file config)
      (progress.sink.toList.map Entry.ofHighlight)

end DocstringTags.Report
