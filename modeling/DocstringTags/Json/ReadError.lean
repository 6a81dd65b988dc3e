import DocstringTags.Json.Value
import DocstringTags.Span
import DocstringTags.Text.Digits

set_option autoImplicit false

namespace DocstringTags.Json

inductive Part where
  | value
  | list
  | object
  | string
  deriving DecidableEq, Repr

def Part.name : Part → String
  | .value => "a value"
  | .list => "a list"
  | .object => "an object"
  | .string => "a string"

inductive Found where
  | null
  | bool (b : Bool)
  | number (n : Number)
  | string (s : String)
  | list
  | object
  deriving DecidableEq, Repr

def Found.name : Found → String
  | .null => "null"
  | .bool b => "boolean `" ++ (if b then "true" else "false") ++ "`"
  | .number (.natural n) => "integer `" ++ (Number.natural n).text ++ "`"
  | .number (.negative n) => "integer `" ++ (Number.negative n).text ++ "`"
  | .number (.real isNegative x) => "floating point `" ++ (Number.real isNegative x).text ++ "`"
  | .string s => "string " ++ Text.display s
  | .list => "sequence"
  | .object => "map"

inductive ReadError where
  | endOf (part : Part)
  | expectedValue
  | expectedWord
  | expectedColon
  | expectedCommaInList
  | expectedCommaInObject
  | expectedKey
  | trailingComma
  | trailingCharacters
  | invalidNumber
  | numberOutOfRange
  | invalidEscape
  | controlCharacter
  /-- A high unit without a low one after it. -/
  | unfinishedPair
  /-- A low unit first, or a high one before another that is not low. -/
  | lonelyUnit
  | tooDeep
  | wrongType (found : Found) (expected : String)
  | wrongValue (found : Found) (expected : String)
  | wrongLength (length : Nat) (expected : String)
  | unknownVariant (name : String) (known : List String)
  | missingField (name : String)
  | duplicateField (name : String)
  | badSpan (e : OffsetError)
  | literalSize (span : Span) (size : Nat)
  deriving DecidableEq, Repr

def alternatives : List String → String
  | [] => "there are no variants"
  | [a] => "expected `" ++ a ++ "`"
  | [a, b] => "expected `" ++ a ++ "` or `" ++ b ++ "`"
  | names => "expected one of " ++ ", ".intercalate (names.map fun a => "`" ++ a ++ "`")

/-- What is wrong, without the line and the column where it shows. -/
def ReadError.message : ReadError → String
  | .endOf part => "EOF while parsing " ++ part.name
  | .expectedValue => "expected value"
  | .expectedWord => "expected ident"
  | .expectedColon => "expected `:`"
  | .expectedCommaInList => "expected `,` or `]`"
  | .expectedCommaInObject => "expected `,` or `\x7d`"
  | .expectedKey => "key must be a string"
  | .trailingComma => "trailing comma"
  | .trailingCharacters => "trailing characters"
  | .invalidNumber => "invalid number"
  | .numberOutOfRange => "number out of range"
  | .invalidEscape => "invalid escape"
  | .controlCharacter => "control character (\\u0000-\\u001F) found while parsing a string"
  | .unfinishedPair => "unexpected end of hex escape"
  | .lonelyUnit => "lone leading surrogate in hex escape"
  | .tooDeep => "recursion limit exceeded"
  | .wrongType found expected => "invalid type: " ++ found.name ++ ", expected " ++ expected
  | .wrongValue found expected => "invalid value: " ++ found.name ++ ", expected " ++ expected
  | .wrongLength length expected =>
    "invalid length " ++ toString length ++ ", expected " ++ expected
  | .unknownVariant name known => "unknown variant `" ++ name ++ "`, " ++ alternatives known
  | .missingField name => "missing field `" ++ name ++ "`"
  | .duplicateField name => "duplicate field `" ++ name ++ "`"
  | .badSpan e => e.message
  | .literalSize span size =>
    "string literal at " ++ span.display ++ " spans " ++ toString span.size
      ++ " bytes but its text is " ++ toString size ++ " bytes"

end DocstringTags.Json
