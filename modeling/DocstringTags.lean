import DocstringTags.CommandLine.Answer
import DocstringTags.CommandLine.Arguments
import DocstringTags.CommandLine.Request
import DocstringTags.Config
import DocstringTags.Decimal.Double
import DocstringTags.Failure
import DocstringTags.Format
import DocstringTags.Json.Draft
import DocstringTags.Json.Numeral
import DocstringTags.Json.ReadError
import DocstringTags.Json.Reader
import DocstringTags.Json.Record
import DocstringTags.Json.StringToken
import DocstringTags.Json.Token
import DocstringTags.Json.Value
import DocstringTags.Literal
import DocstringTags.Main
import DocstringTags.Outline.Annotate
import DocstringTags.Outline.Basic
import DocstringTags.Outline.Json
import DocstringTags.Proofs.CommandLine.Answer
import DocstringTags.Proofs.Config
import DocstringTags.Proofs.Json.Record
import DocstringTags.Proofs.Json.Reread
import DocstringTags.Proofs.Json.Sorted
import DocstringTags.Proofs.Json.Written
import DocstringTags.Proofs.Json.WrittenToken
import DocstringTags.Proofs.Literal.Enclosed
import DocstringTags.Proofs.Literal.Rendered
import DocstringTags.Proofs.Literal.Unescape
import DocstringTags.Proofs.Outline.Comments
import DocstringTags.Proofs.Outline.Order
import DocstringTags.Proofs.Outline.Overflow
import DocstringTags.Proofs.Outline.Placement
import DocstringTags.Proofs.Outline.Plan
import DocstringTags.Proofs.Outline.Preorder
import DocstringTags.Proofs.Outline.Reading
import DocstringTags.Proofs.Outline.RoundTrip
import DocstringTags.Proofs.Outline.Shift
import DocstringTags.Proofs.Outline.Source
import DocstringTags.Proofs.Report.Annotate
import DocstringTags.Proofs.Report.Located
import DocstringTags.Proofs.Report.RoundTrip
import DocstringTags.Proofs.Report.Scan
import DocstringTags.Proofs.Report.Written
import DocstringTags.Proofs.Span
import DocstringTags.Proofs.Tags.ByteSearch
import DocstringTags.Proofs.Tags.NextTag
import DocstringTags.Proofs.Tags.Occurrence
import DocstringTags.Proofs.Tags.Parts
import DocstringTags.Proofs.Tags.Restart
import DocstringTags.Proofs.Tags.Run
import DocstringTags.Proofs.Tags.Session
import DocstringTags.Proofs.Tags.Shadowed
import DocstringTags.Proofs.Tags.Words
import DocstringTags.Proofs.Text.Boundary
import DocstringTags.Proofs.Text.Numeral
import DocstringTags.Proofs.Text.Place
import DocstringTags.Proofs.Text.Trim
import DocstringTags.Proofs.Text.Utf8
import DocstringTags.Report.Basic
import DocstringTags.Report.Json
import DocstringTags.Span
import DocstringTags.Tags.Cursor
import DocstringTags.Tags.Search
import DocstringTags.Text.AlphanumericTable
import DocstringTags.Text.Bytes
import DocstringTags.Text.CharClass
import DocstringTags.Text.Digits
import DocstringTags.Text.HiddenTable
