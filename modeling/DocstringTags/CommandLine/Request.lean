import DocstringTags.CommandLine.Arguments
import DocstringTags.Config

/-! What a command line asks for. A version is shown as soon as it is asked for; there is no help, so
an argument that asks for it is refused as any unknown one is.
-/

set_option autoImplicit false

namespace DocstringTags.CommandLine

inductive Command where
  | scan (path : ByteArray) (flags : Flags) (start : Nat) (tags : List String) (wordEnd : Bool)
  | annotate (path : ByteArray) (format : Option Format)
  | quote (value : String)

inductive Request where
  | version
  | run (command : Command)

def Command.path? : Command → Option ByteArray
  | .scan path .. => some path
  | .annotate path _ => some path
  | .quote _ => none

def readFormatOption (a : Arguments) : Except UsageError (Option Format) := do
  match ← a.value? .format with
  | none => return none
  | some name =>
    match Format.ofName? name with
    | some format => return some format
    | none => .error (.badValue .format name)

def readNumberOption (name : OptionName) (a : Arguments) : Except UsageError (Option Nat) := do
  match ← a.value? name with
  | none => return none
  | some text =>
    match Text.readNumeral maxOffset text.toList with
    | .ok number => return some number
    | .error _ => .error (.badValue name text)

def logLevels : List String := ["trace", "debug", "info", "warn", "error"]

/-- Nothing is logged, but the level has to be one. -/
def checkLogLevel (level : String) : Except UsageError Unit :=
  if level ∈ logLevels then .ok () else .error (.badValue .logLevel level)

def readPath (a : Arguments) : Except UsageError ByteArray := do
  let path ← a.word
  if path.isEmpty then .error (.badWord "") else return path

def readScan (a : Arguments) : Except UsageError Command := do
  let format ← readFormatOption a
  let baseOffset ← readNumberOption .baseOffset a
  let start ← readNumberOption .start a
  let wordEnd ← a.isGiven .wordEnd
  let tags ← a.values .tag
  if wordEnd && tags.isEmpty then
    .error .boundaryWithoutTags
  else
    return .scan (← readPath a) ⟨format, baseOffset⟩ (start.getD 0) tags wordEnd

def readAnnotate (a : Arguments) : Except UsageError Command := do
  let format ← readFormatOption a
  return .annotate (← readPath a) format

def readQuote (a : Arguments) : Except UsageError Command := do
  let word ← a.word
  match String.fromUTF8? word with
  | some value => return .quote value
  | none => .error (.badWord (Text.legible word))

def commandForm? (name : ByteArray) :
    Option (List OptionName × (Arguments → Except UsageError Command)) :=
  match String.fromUTF8? name with
  | some "scan" => some ([.format, .baseOffset, .start, .tag, .wordEnd], readScan)
  | some "annotate" => some ([.format], readAnnotate)
  | some "quote" => some ([], readQuote)
  | _ => none

def readCommand (name : ByteArray) (arguments : List ByteArray) : Except UsageError Command :=
  match commandForm? name with
  | none => .error (.unknownCommand (Text.legible name))
  | some (options, form) => do
    let sorted ← Arguments.sort (.logLevel :: options) arguments
    match ← sorted.value? .logLevel with
    | none => form sorted
    | some level => do
      checkLogLevel level
      form sorted

def Request.readRest (levelGiven : Bool) : List ByteArray → Except UsageError Request
  | [] => .error .noCommand
  | argument :: rest =>
    match Shape.of argument with
    | .word => (readCommand argument rest).map .run
    | .short 0x56 | .long (some "version") none => .ok .version
    | .long (some "log-level") (some level) => do
      if levelGiven then .error (.repeated .logLevel)
      checkLogLevel (← Arguments.readText .logLevel level)
      readRest true rest
    | .long (some "log-level") none =>
      match rest with
      | [] => .error (.noValue .logLevel)
      | level :: rest => do
        if levelGiven then .error (.repeated .logLevel)
        checkLogLevel (← Arguments.readText .logLevel level)
        readRest true rest
    | .separator => .error .noCommand
    | .short _ | .long _ _ => .error (.unknownOption (Text.legible argument))

/-- Reads a command line. A log level may stand before the command, too; the version is shown as
soon as it is asked for. -/
def Request.ofArguments (arguments : List ByteArray) : Except UsageError Request :=
  readRest false arguments

end DocstringTags.CommandLine
