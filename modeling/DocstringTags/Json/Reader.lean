import DocstringTags.Json.Draft

/-! Readers of drafts. A reader takes the value that it needs and reports the first problem in the
order of the text, be it of form or of kind. Lists and objects are opened one inside the other; the
argument `depth` counts how many more of them may be open.
-/

set_option autoImplicit false

namespace DocstringTags.Json

abbrev Reader (α : Type) := Draft → Except ReadError α

/-- How many lists and objects may be open at once. -/
def maxDepth : Nat := 127

def Fault.error : Fault → ReadError
  | .missing => .endOf .value
  | .word _ .atEnd => .endOf .value
  | .word _ .filled => .expectedWord
  | .numeral .atEnd => .endOf .value
  | .numeral .filled => .invalidNumber
  | .stray => .expectedValue
  | .colon .atEnd => .endOf .object
  | .colon .filled => .expectedColon

def ListEnd.check : ListEnd → Except ReadError Unit
  | .closed | .broken => .ok ()
  | .cutShort => .error (.endOf .list)
  | .noComma => .error .expectedCommaInList
  | .trailing => .error .trailingComma

def ObjectEnd.check : ObjectEnd → Except ReadError Unit
  | .closed | .broken => .ok ()
  | .cutShort => .error (.endOf .object)
  | .noComma => .error .expectedCommaInObject
  | .noKey => .error .expectedKey
  | .trailing => .error .trailingComma
  | .cutAfterComma => .error (.endOf .value)

def Draft.found : Draft → Except ReadError Found
  | .null => .ok .null
  | .bool b => .ok (.bool b)
  | .number n => n.number.map .number
  | .string s => s.text.map .string
  | .list _ _ => .ok .list
  | .object _ _ => .ok .object
  | .broken fault => .error fault.error

def mismatch {α : Type} (expected : String) (found : Except ReadError Found) :
    Except ReadError α :=
  match found with
  | .ok found => .error (.wrongType found expected)
  | .error e => .error e

def readText : Reader String
  | .string s => s.text
  | d => mismatch "a string" d.found

def readNatural (limit : Nat) (kind : String) : Reader Nat
  | .number n =>
    match n.number with
    | .ok (.natural value) =>
      if value ≤ limit then .ok value
      else .error (.wrongValue (.number (.natural value)) kind)
    | .ok (.negative value) => .error (.wrongValue (.number (.negative value)) kind)
    | .ok found => .error (.wrongType (.number found) kind)
    | .error e => .error e
  | d => mismatch kind d.found

def readOptional {α : Type} (reader : Reader α) : Reader (Option α)
  | .null => .ok none
  | .broken (.word 'n' gap) => .error (Fault.word 'n' gap).error
  | d => (reader d).map some

def readList {α : Type} (item : Nat → Reader α) (depth : Nat) : Reader (List α)
  | .list items ending =>
    match depth with
    | 0 => .error .tooDeep
    | depth + 1 => do
      let values ← items.mapM (item depth)
      ending.check
      return values
  | d => mismatch "a sequence" d.found

/-- Any value. The members of an object come sorted, and the last of equal keys counts. -/
def readJson : Nat → Reader Json
  | _, .null => .ok .null
  | _, .bool b => .ok (.bool b)
  | _, .number n => n.number.map .number
  | _, .string s => s.text.map .string
  | 0, .list _ _ | 0, .object _ _ => .error .tooDeep
  | depth + 1, .list items ending => do
    let values ← items.mapM (readJson depth)
    ending.check
    return .list values
  | depth + 1, .object members ending => do
    let values ← members.mapM fun (key, d) => do
      let name ← key.text
      let value ← readJson depth d
      return (name, value)
    ending.check
    return Json.sorted values
  | _, .broken fault => .error fault.error

def findVariant {α : Type} (variants : List (String × α)) (name : String) : Except ReadError α :=
  match variants.lookup name with
  | some value => .ok value
  | none => .error (.unknownVariant name (variants.map Prod.fst))

/-- A named value: its name, or an object whose only member has that name and is null. -/
def readVariant {α : Type} (variants : List (String × α)) (depth : Nat) : Reader α
  | .string s => do findVariant variants (← s.text)
  | .object members ending =>
    match depth, members with
    | 0, _ => .error .tooDeep
    | _ + 1, [] => do
      ending.check
      .error .expectedValue
    | _ + 1, (key, d) :: rest => do
      let value ← findVariant variants (← key.text)
      match d with
      | .null => pure ()
      | d => mismatch "unit" d.found
      match rest, ending with
      | [], .closed => return value
      | [], .cutShort => .error (.endOf .object)
      | _, _ => .error .expectedValue
  | .broken .missing => .error (.endOf .value)
  | .broken (.colon gap) => .error (Fault.colon gap).error
  | _ => .error .expectedValue

def read {α : Type} (reader : Nat → Reader α) (text : String) : Except ReadError α := do
  let progress := Progress.ofText text
  let value ← reader maxDepth progress.finish
  if progress.hasMore then .error .trailingCharacters else return value

end DocstringTags.Json
