import DocstringTags.Text.Bytes

/-! Arguments sorted into options and words. An option with a value takes it after an equals sign,
or else from the next argument, which must be a word. Behind a double hyphen all arguments are
words. An argument is a row of bytes; it has to be a text wherever it is no path.
-/

set_option autoImplicit false

namespace DocstringTags.CommandLine

inductive Shape where
  | separator
  | long (name : Option String) (value : Option ByteArray)
  | short (letter : UInt8)
  /-- All else, a lone hyphen among it. -/
  | word

def splitValue (bytes : List UInt8) : List UInt8 × Option ByteArray :=
  match bytes.dropWhile (· != 0x3D) with
  | [] => (bytes, none)
  | _ :: value => (bytes.takeWhile (· != 0x3D), some value.toByteArray)

-- the hyphen is 0x2D
def Shape.of (argument : ByteArray) : Shape :=
  match argument.data.toList with
  | [0x2D, 0x2D] => .separator
  | 0x2D :: 0x2D :: bytes =>
    .long (String.fromUTF8? (splitValue bytes).1.toByteArray) (splitValue bytes).2
  | 0x2D :: letter :: _ => .short letter
  | _ => .word

inductive OptionName where
  | format
  | baseOffset
  | start
  | tag
  | wordEnd
  | logLevel
  deriving DecidableEq, Repr

def OptionName.text : OptionName → String
  | .format => "format"
  | .baseOffset => "base-offset"
  | .start => "start"
  | .tag => "tag"
  | .wordEnd => "word-end"
  | .logLevel => "log-level"

def OptionName.takesValue : OptionName → Bool
  | .wordEnd => false
  | .format | .baseOffset | .start | .tag | .logLevel => true

inductive UsageError where
  | noCommand
  | unknownCommand (name : String)
  | unknownOption (argument : String)
  | noValue (option : OptionName)
  | needlessValue (option : OptionName)
  | badValue (option : OptionName) (value : String)
  | repeated (option : OptionName)
  | missingWord
  | badWord (word : String)
  | excessWord (word : String)
  | boundaryWithoutTags
  deriving DecidableEq, Repr

def UsageError.message : UsageError → String
  | .noCommand => "a command is needed: scan, annotate or quote"
  | .unknownCommand name => "no such command: " ++ name
  | .unknownOption argument => "no such option: " ++ argument
  | .noValue option => "a value is needed for --" ++ option.text
  | .needlessValue option => "no value is allowed for --" ++ option.text
  | .badValue option value => "bad value for --" ++ option.text ++ ": " ++ value
  | .repeated option => "given twice: --" ++ option.text
  | .missingWord => "an argument is missing"
  | .badWord word => "bad argument: '" ++ word ++ "'"
  | .excessWord word => "one argument too many: " ++ word
  | .boundaryWithoutTags => "--word-end needs --tag"

structure Arguments where
  options : List (OptionName × Option ByteArray)
  words : List ByteArray

namespace Arguments

def withOption (name : OptionName) (value : Option ByteArray) (a : Arguments) : Arguments :=
  { a with options := (name, value) :: a.options }

def withWord (word : ByteArray) (a : Arguments) : Arguments := { a with words := word :: a.words }

def sort (known : List OptionName) : List ByteArray → Except UsageError Arguments
  | [] => .ok ⟨[], []⟩
  | argument :: rest =>
    match Shape.of argument with
    | .separator => .ok ⟨[], rest⟩
    | .word => (sort known rest).map (withWord argument)
    | .short _ => .error (.unknownOption (Text.legible argument))
    | .long name value? =>
      match known.find? (some ·.text == name) with
      | none => .error (.unknownOption (Text.legible argument))
      | some option =>
        match option.takesValue, value? with
        | true, some value => (sort known rest).map (withOption option (some value))
        | false, none => (sort known rest).map (withOption option none)
        | false, some _ => .error (.needlessValue option)
        | true, none =>
          match rest with
          | [] => .error (.noValue option)
          | value :: rest =>
            match Shape.of value with
            | .word => (sort known rest).map (withOption option (some value))
            | _ => .error (.noValue option)

def readText (name : OptionName) (value : ByteArray) : Except UsageError String :=
  match String.fromUTF8? value with
  | some text => .ok text
  | none => .error (.badValue name (Text.legible value))

def values (a : Arguments) (name : OptionName) : Except UsageError (List String) :=
  let written := a.options.filterMap fun (option, value?) => if option = name then value? else none
  written.mapM (readText name)

/-- The value of an option that is given at most once. -/
def value? (a : Arguments) (name : OptionName) : Except UsageError (Option String) := do
  match ← a.values name with
  | [] => return none
  | [value] => return some value
  | _ => .error (.repeated name)

def isGiven (a : Arguments) (name : OptionName) : Except UsageError Bool :=
  match a.options.countP (·.1 == name) with
  | 0 => .ok false
  | 1 => .ok true
  | _ => .error (.repeated name)

def word (a : Arguments) : Except UsageError ByteArray :=
  match a.words with
  | [] => .error .missingWord
  | [word] => .ok word
  | _ :: word :: _ => .error (.excessWord (Text.legible word))

end Arguments

end DocstringTags.CommandLine
