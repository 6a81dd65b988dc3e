import DocstringTags.Config
import DocstringTags.Json.ReadError
import DocstringTags.Json.Value

set_option autoImplicit false

namespace DocstringTags

inductive FileErrorKind where
  | notFound
  | permissionDenied
  | invalidData
  | unexpectedEnd
  | other
  deriving DecidableEq, Repr

def FileErrorKind.description : FileErrorKind → String
  | .notFound => "entity not found"
  | .permissionDenied => "permission denied"
  | .invalidData => "invalid data"
  | .unexpectedEnd => "unexpected end of file"
  | .other => "other error"

structure FileError where
  kind : FileErrorKind
  text : Option String
  deriving DecidableEq, Repr

namespace FileError

def message (e : FileError) : String := e.text.getD e.kind.description

def ofSystem (kind : FileErrorKind) (words : String) (number : Nat) : FileError :=
  ⟨kind, some (words ++ " (os error " ++ toString number ++ ")")⟩

def missing : FileError := ofSystem .notFound "No such file or directory" 2

def noFolder : FileError := ofSystem .other "Not a directory" 20

def isFolder : FileError := ofSystem .other "Is a directory" 21

def notText : FileError := ⟨.invalidData, some "stream did not contain valid UTF-8"⟩

end FileError

def decodeFile (content : ByteArray) : Except FileError String :=
  match String.fromUTF8? content with
  | some text => .ok text
  | none => .error .notText

inductive ErrorCode where
  | invalidArguments
  | fileNotFound
  | internalError
  deriving DecidableEq, Repr

/-- The exit code, which is also the code inside an error report. -/
def ErrorCode.value : ErrorCode → Nat
  | .invalidArguments => 2
  | .fileNotFound => 3
  | .internalError => 10

instance : ToString ErrorCode := ⟨fun code => toString code.value⟩

inductive Failure where
  | invalidArguments (message : String) (details : Option Json)
  | fileNotFound (path : String)
  | internal (message : String)
  deriving BEq, Repr

namespace Failure

def code : Failure → ErrorCode
  | .invalidArguments _ _ => .invalidArguments
  | .fileNotFound _ => .fileNotFound
  | .internal _ => .internalError

def message : Failure → String
  | .invalidArguments message _ => "invalid arguments: " ++ message
  | .fileNotFound path => "file not found: " ++ path
  | .internal message => "internal error: " ++ message

def details? : Failure → Option Json
  | .invalidArguments _ details => details
  | .fileNotFound path => some (.object [("path", .string path)])
  | .internal _ => none

def ofOffsetError (e : OffsetError) : Failure :=
  .invalidArguments e.message <| some <|
    match e with
    | .invalid offset size => .sorted [("offset", .natural offset), ("len", .natural size)]
    | .inverted start stop => .sorted [("start", .natural start), ("end", .natural stop)]
    | .overflow offset delta => .sorted [("offset", .natural offset), ("delta", .natural delta)]

def ofConfigError (e : ConfigError) : Failure := .invalidArguments e.message none

def ofReadError (e : Json.ReadError) : Failure :=
  .invalidArguments ("malformed JSON input: " ++ e.message) none

def ofInputError (e : FileError) : Failure := .internal ("JSON error: " ++ e.message)

def ofFileError (path : String) (e : FileError) : Failure :=
  match e.kind with
  | .notFound => .fileNotFound path
  | _ => .internal ("failed to read " ++ path ++ ": " ++ e.message)

end Failure

end DocstringTags
