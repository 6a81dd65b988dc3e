import DocstringTags.Json.Record
import DocstringTags.Json.Value
import DocstringTags.Outline.Json
import DocstringTags.Report.Basic

set_option autoImplicit false

namespace DocstringTags

def Highlight.toJson (h : Highlight) : Json :=
  .object [("range", h.span.toJson), ("style", .string h.style.name)]

namespace Report

def optionalMember (key : String) : Option Json → List (String × Json)
  | none => []
  | some value => [(key, value)]

def Entry.toJson (e : Entry) : Json :=
  .object <|
    [("start", .natural e.start), ("end", .natural e.stop), ("style", .string e.style.name)]
      ++ optionalMember "line" (e.line.map .natural)
      ++ optionalMember "col" (e.column.map .natural)
      ++ optionalMember "text" (e.text.map .string)

def Highlights.toJson (r : Highlights) : Json :=
  .object [("status", .string r.status), ("schema_version", .string r.version),
    ("format", .string r.format), ("format_source", .string r.formatSource),
    ("highlights", .list (r.entries.map Entry.toJson))]

def Quote.toJson (r : Quote) : Json :=
  .object [("status", .string r.status), ("schema_version", .string r.version),
    ("literal", .string r.literal)]

def ErrorInfo.toJson (e : ErrorInfo) : Json :=
  .object <| [("code", .natural e.code), ("message", .string e.message)]
    ++ optionalMember "details" e.details

def Error.toJson (r : Error) : Json :=
  .object [("status", .string r.status), ("schema_version", .string r.version),
    ("error", r.info.toJson)]

def emit (report : Json) : String := report.pretty ++ "\n"

end Report

open Json

def Style.variants : List (String × Style) := Style.all.map fun s => (s.name, s)

def Style.read : Nat → Reader Style := readVariant Style.variants

structure HighlightParts where
  span : Option Span := none
  style : Option Style := none

def HighlightParts.record (depth : Nat) : Record HighlightParts Highlight where
  name := "Highlight"
  empty := {}
  fields :=
    [.of "range" HighlightParts.span (fun p span => { p with span }) (Span.read .text depth) false,
     .of "style" HighlightParts.style (fun p style => { p with style }) (Style.read depth) false]
  build p := do
    let span ← require "range" p.span
    let style ← require "style" p.style
    return ⟨span, style⟩

def Highlight.ofText (text : String) : Except ReadError Highlight :=
  Json.read (Record.read HighlightParts.record .text) text

namespace Report

def maxPlace : Nat := 0xFFFFFFFF

def readPlace : Reader (Option Nat) := readOptional (readNatural maxPlace "u32")

structure EntryParts where
  start : Option Nat := none
  stop : Option Nat := none
  style : Option Style := none
  line : Option (Option Nat) := none
  column : Option (Option Nat) := none
  text : Option (Option String) := none

def EntryParts.record (depth : Nat) : Record EntryParts Entry where
  name := "HighlightInfo"
  empty := {}
  fields :=
    [.of "start" EntryParts.start (fun p start => { p with start }) readOffset false,
     .of "end" EntryParts.stop (fun p stop => { p with stop }) readOffset false,
     .of "style" EntryParts.style (fun p style => { p with style }) (Style.read depth) false,
     .of "line" EntryParts.line (fun p line => { p with line }) readPlace false,
     .of "col" EntryParts.column (fun p column => { p with column }) readPlace false,
     .of "text" EntryParts.text (fun p text => { p with text }) (readOptional readText) false]
  build p := do
    let start ← require "start" p.start
    let stop ← require "end" p.stop
    let style ← require "style" p.style
    return ⟨start, stop, style, p.line.getD none, p.column.getD none, p.text.getD none⟩

def Entry.read : Nat → Reader Entry := Record.read EntryParts.record .text

structure HighlightsParts where
  status : Option String := none
  version : Option String := none
  format : Option String := none
  formatSource : Option String := none
  entries : Option (List Entry) := none

def HighlightsParts.record (depth : Nat) : Record HighlightsParts Highlights where
  name := "HighlightResponse"
  empty := {}
  fields :=
    [.of "status" HighlightsParts.status (fun p status => { p with status }) readText false,
     .of "schema_version" HighlightsParts.version (fun p version => { p with version })
      readText false,
     .of "format" HighlightsParts.format (fun p format => { p with format }) readText false,
     .of "format_source" HighlightsParts.formatSource
      (fun p formatSource => { p with formatSource }) readText false,
     .of "highlights" HighlightsParts.entries (fun p entries => { p with entries })
      (readList Entry.read depth) false]
  build p := do
    let status ← require "status" p.status
    let version ← require "schema_version" p.version
    let format ← require "format" p.format
    let formatSource ← require "format_source" p.formatSource
    let entries ← require "highlights" p.entries
    return ⟨status, version, format, formatSource, entries⟩

structure QuoteParts where
  status : Option String := none
  version : Option String := none
  literal : Option String := none

def QuoteParts.record (_depth : Nat) : Record QuoteParts Quote where
  name := "QuoteResponse"
  empty := {}
  fields :=
    [.of "status" QuoteParts.status (fun p status => { p with status }) readText false,
     .of "schema_version" QuoteParts.version (fun p version => { p with version }) readText false,
     .of "literal" QuoteParts.literal (fun p literal => { p with literal }) readText false]
  build p := do
    let status ← require "status" p.status
    let version ← require "schema_version" p.version
    let literal ← require "literal" p.literal
    return ⟨status, version, literal⟩

def maxCode : Nat := 0xFF

structure InfoParts where
  code : Option Nat := none
  message : Option String := none
  details : Option (Option Json) := none

def InfoParts.record (depth : Nat) : Record InfoParts ErrorInfo where
  name := "ErrorInfo"
  empty := {}
  fields :=
    [.of "code" InfoParts.code (fun p code => { p with code }) (readNatural maxCode "u8") false,
     .of "message" InfoParts.message (fun p message => { p with message }) readText false,
     .of "details" InfoParts.details (fun p details => { p with details })
      (readOptional (readJson depth)) false]
  build p := do
    let code ← require "code" p.code
    let message ← require "message" p.message
    return ⟨code, message, p.details.getD none⟩

structure ErrorParts where
  status : Option String := none
  version : Option String := none
  info : Option ErrorInfo := none

def ErrorParts.record (depth : Nat) : Record ErrorParts Error where
  name := "ErrorResponse"
  empty := {}
  fields :=
    [.of "status" ErrorParts.status (fun p status => { p with status }) readText false,
     .of "schema_version" ErrorParts.version (fun p version => { p with version }) readText false,
     .of "error" ErrorParts.info (fun p info => { p with info })
      (Record.read InfoParts.record .text depth) false]
  build p := do
    let status ← require "status" p.status
    let version ← require "schema_version" p.version
    let info ← require "error" p.info
    return ⟨status, version, info⟩

def Highlights.ofText (text : String) : Except ReadError Highlights :=
  Json.read (Record.read HighlightsParts.record .text) text

def Quote.ofText (text : String) : Except ReadError Quote :=
  Json.read (Record.read QuoteParts.record .text) text

def Error.ofText (text : String) : Except ReadError Error :=
  Json.read (Record.read ErrorParts.record .text) text

def entriesOfText (text : String) : Except ReadError (List Entry) :=
  Json.read (readList Entry.read) text

end Report

end DocstringTags
