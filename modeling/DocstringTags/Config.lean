import DocstringTags.Format
import DocstringTags.Span
import DocstringTags.Text.Digits

/-! Settings and where they come from. A flag on the command line outranks the environment, which
outranks the default; a variable that cannot be read is an error even where a flag outranks it.
-/

set_option autoImplicit false

namespace DocstringTags

inductive ConfigError where
  | unknownFormat (name : String)
  | invalidValue (name value reason : String)
  deriving DecidableEq, Repr

def ConfigError.message : ConfigError → String
  | .unknownFormat name =>
    "unknown docstring format '" ++ name ++ "' (expected plain, epytext, rest, numpy or google)"
  | .invalidValue name value reason =>
    "invalid value '" ++ value ++ "' for " ++ name ++ ": " ++ reason

inductive Source where
  | default
  | environment
  | flag
  deriving DecidableEq, Repr

def Source.rank : Source → Nat
  | .default => 0
  | .environment => 1
  | .flag => 2

def Source.name : Source → String
  | .default => "default"
  | .environment => "env"
  | .flag => "cli"

def Source.outranks (here there : Source) : Bool := decide (there.rank < here.rank)

structure Setting (α : Type) where
  value : α
  source : Source
  deriving DecidableEq, Repr

structure Flags where
  format : Option Format
  baseOffset : Option Nat
  deriving DecidableEq, Repr

structure Config where
  format : Setting Format
  baseOffset : Setting Nat
  deriving DecidableEq, Repr

namespace Config

def default : Config := ⟨⟨.plain, .default⟩, ⟨0, .default⟩⟩

def formatVariable : String := "DOCTAG_FORMAT"

def baseOffsetVariable : String := "DOCTAG_BASE_OFFSET"

def readFormat (text : String) : Except ConfigError Format :=
  match Format.ofName? text with
  | some format => .ok format
  | none => .error (.unknownFormat text)

def readBaseOffset (text : String) : Except ConfigError Nat :=
  match Text.readNumeral maxOffset (Text.trim text.toList) with
  | .ok offset => .ok offset
  | .error e => .error (.invalidValue baseOffsetVariable text e.message)

def settle {α : Type} (byDefault : α) (fromEnvironment fromFlag : Option α) : Setting α :=
  match fromFlag, fromEnvironment with
  | some value, _ => ⟨value, .flag⟩
  | none, some value => ⟨value, .environment⟩
  | none, none => ⟨byDefault, .default⟩

/-- The settings under an environment. The format variable is looked at first. -/
def resolve (environment : String → Option String) (flags : Flags) : Except ConfigError Config := do
  let format ← (environment formatVariable).mapM readFormat
  let baseOffset ← (environment baseOffsetVariable).mapM readBaseOffset
  return ⟨settle .plain format flags.format, settle 0 baseOffset flags.baseOffset⟩

end Config

end DocstringTags
