import DocstringTags.CommandLine.Request
import DocstringTags.Literal
import DocstringTags.Report.Basic
import DocstringTags.Report.Json

set_option autoImplicit false

namespace DocstringTags.CommandLine

structure Answer where
  code : Nat
  output : String
  deriving DecidableEq, Repr

structure World where
  environment : String → Option ByteArray
  files : ByteArray → Except FileError ByteArray

/-- A variable that holds no text counts as one that is not set. -/
def World.setting (w : World) (name : String) : Option String :=
  (w.environment name).bind String.fromUTF8?

def World.text (w : World) (path : ByteArray) : Except Failure String :=
  ((w.files path).bind decodeFile).mapError (Failure.ofFileError (Text.legible path))

def World.config (w : World) (flags : Flags) : Except Failure Config :=
  (Config.resolve w.setting flags).mapError Failure.ofConfigError

def quoteReport (value : String) : Report.Quote :=
  .ok ((LiteralBuilder.source Literal.escape).literal value)

def Command.report (w : World) : Command → Except Failure Json
  | .scan path flags start tags wordEnd => do
    let config ← w.config flags
    let text ← w.text path
    return (← Report.scanReport config tags wordEnd start text).toJson
  | .annotate path format => do
    let config ← w.config ⟨format, none⟩
    let text ← w.text path
    return (← Report.annotateReport config text).toJson
  | .quote value => .ok (quoteReport value).toJson

def Answer.ofReport : Except Failure Json → Answer
  | .ok report => ⟨0, Report.emit report⟩
  | .error f => ⟨f.code.value, Report.emit (Report.Error.ofFailure f).toJson⟩

def usageCode : Nat := 2

def versionLine : String := "doctag 0.1.0\n"

def Request.answer (w : World) : Request → Answer
  | .version => ⟨0, versionLine⟩
  | .run command => .ofReport (command.report w)

/-- The answer to a command line. One that is refused leaves the standard output empty. -/
def answer (w : World) (arguments : List ByteArray) : Answer :=
  match Request.ofArguments arguments with
  | .ok request => request.answer w
  | .error _ => ⟨usageCode, ""⟩

end DocstringTags.CommandLine
