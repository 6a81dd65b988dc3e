import DocstringTags.Decimal.Double
import DocstringTags.Text.Digits

set_option autoImplicit false

namespace DocstringTags.Json

inductive Number where
  | natural (n : Nat)
  /-- The negative of `n`, which is positive. -/
  | negative (n : Nat)
  | real (isNegative : Bool) (magnitude : Decimal.Double)
  deriving DecidableEq, Repr

/-- Reals are written without an exponent from five places behind the point to sixteen before it. -/
def Number.layout : Decimal.Layout := ⟨-5, 15⟩

def Number.text : Number → String
  | .natural n => toString n
  | .negative n => "-" ++ toString n
  | .real isNegative magnitude =>
    (if isNegative then "-" else "") ++ magnitude.shortest.text layout

end DocstringTags.Json

namespace DocstringTags

/-- The members of an object stay in the order in which they were given. -/
inductive Json where
  | null
  | bool (b : Bool)
  | number (n : Json.Number)
  | string (s : String)
  | list (items : List Json)
  | object (members : List (String × Json))
  deriving BEq, Repr

namespace Json

def natural (n : Nat) : Json := .number (.natural n)

def insertMember (key : String) (value : Json) : List (String × Json) → List (String × Json)
  | [] => [(key, value)]
  | (k, v) :: rest =>
    if key < k then (key, value) :: (k, v) :: rest
    else if key = k then (key, value) :: rest
    else (k, v) :: insertMember key value rest

/-- Members sorted by key. The last of equal keys counts. -/
def sorted (members : List (String × Json)) : Json :=
  .object (members.foldl (fun object m => insertMember m.1 m.2 object) [])

def writeChar (c : Char) : List Char :=
  if c = '"' then ['\\', '"']
  else if c = '\\' then ['\\', '\\']
  else if c = '\x08' then ['\\', 'b']
  else if c = '\t' then ['\\', 't']
  else if c = '\n' then ['\\', 'n']
  else if c = '\x0c' then ['\\', 'f']
  else if c = '\r' then ['\\', 'r']
  else if c.toNat < 0x20 then '\\' :: 'u' :: Text.hexDigits c.toNat
  else [c]

def writeString (s : String) : List Char := '"' :: (s.toList.flatMap writeChar ++ ['"'])

mutual

def writeCompact : Json → List Char
  | .null => "null".toList
  | .bool b => (if b then "true" else "false").toList
  | .number n => n.text.toList
  | .string s => writeString s
  | .list [] => ['[', ']']
  | .list (item :: items) => '[' :: (writeCompact item ++ writeItems items)
  | .object [] => ['\x7b', '\x7d']
  | .object ((key, value) :: members) =>
    '\x7b' :: (writeString key ++ ':' :: (writeCompact value ++ writeMembers members))

def writeItems : List Json → List Char
  | [] => [']']
  | item :: items => ',' :: (writeCompact item ++ writeItems items)

def writeMembers : List (String × Json) → List Char
  | [] => ['\x7d']
  | (key, value) :: members =>
    ',' :: (writeString key ++ ':' :: (writeCompact value ++ writeMembers members))

end

def newLine (level : Nat) : List Char := '\n' :: List.replicate (2 * level) ' '

mutual

def writePretty (level : Nat) : Json → List Char
  | .null => "null".toList
  | .bool b => (if b then "true" else "false").toList
  | .number n => n.text.toList
  | .string s => writeString s
  | .list [] => ['[', ']']
  | .list (item :: items) =>
    '[' :: (newLine (level + 1) ++ (writePretty (level + 1) item ++ writePrettyItems level items))
  | .object [] => ['\x7b', '\x7d']
  | .object ((key, value) :: members) =>
    '\x7b' :: (newLine (level + 1) ++ (writeString key ++ ':' :: ' ' ::
      (writePretty (level + 1) value ++ writePrettyMembers level members)))

def writePrettyItems (level : Nat) : List Json → List Char
  | [] => newLine level ++ [']']
  | item :: items =>
    ',' :: (newLine (level + 1) ++ (writePretty (level + 1) item ++ writePrettyItems level items))

def writePrettyMembers (level : Nat) : List (String × Json) → List Char
  | [] => newLine level ++ ['\x7d']
  | (key, value) :: members =>
    ',' :: (newLine (level + 1) ++ (writeString key ++ ':' :: ' ' ::
      (writePretty (level + 1) value ++ writePrettyMembers level members)))

end

def compact (value : Json) : String := String.ofList value.writeCompact

def pretty (value : Json) : String := String.ofList (value.writePretty 0)

end Json

end DocstringTags
