import DocstringTags.Json.Token
import DocstringTags.Json.Value

/-! The tree of a JSON text as far as the text goes. A draft keeps everything up to the first place
where the text is no JSON, and that place itself. What is wrong there depends on whether a reader
needs the value or passes over it, so a draft names the place and the readers find the words. The
tree is built in one pass over the tokens, with the open lists and objects on a stack.
-/

set_option autoImplicit false

namespace DocstringTags.Json

inductive ListEnd where
  | closed
  | broken
  /-- The text ends where a comma or the bracket should be. -/
  | cutShort
  | noComma
  | trailing
  deriving DecidableEq, Repr

inductive ObjectEnd where
  | closed
  | broken
  /-- The text ends where the first key, a comma or the brace should be. -/
  | cutShort
  | noComma
  | noKey
  | trailing
  | cutAfterComma
  deriving DecidableEq, Repr

inductive Draft where
  | null
  | bool (b : Bool)
  | number (n : Numeral)
  | string (s : StringToken)
  | list (items : List Draft) (ending : ListEnd)
  | object (members : List (StringToken × Draft)) (ending : ObjectEnd)
  | broken (fault : Fault)
  deriving Repr

abbrev Member := StringToken × Draft

/-- An open list, or an open object with the key whose value comes next. What is in it already
stands in reverse. -/
inductive Frame where
  | list (items : List Draft)
  | object (members : List Member) (key : StringToken)

inductive Gate where
  | opened
  | afterValue
  | afterComma
  deriving DecidableEq, Repr

inductive Progress where
  | value (outer : List Frame)
  | inList (items : List Draft) (gate : Gate) (outer : List Frame)
  | inObject (members : List Member) (gate : Gate) (outer : List Frame)
  | afterKey (key : StringToken) (members : List Member) (outer : List Frame)
  | complete (draft : Draft) (more : Bool)
  | stopped (draft : Draft)

namespace Progress

def supply (d : Draft) : List Frame → Progress
  | [] => .complete d false
  | .list items :: outer => .inList (d :: items) .afterValue outer
  | .object members key :: outer => .inObject ((key, d) :: members) .afterValue outer

/-- The draft that ends inside this value. -/
def cutInside (d : Draft) : List Frame → Draft
  | [] => d
  | .list items :: outer => cutInside (.list (d :: items).reverse .broken) outer
  | .object members key :: outer => cutInside (.object ((key, d) :: members).reverse .broken) outer

def stop (d : Draft) (outer : List Frame) : Progress := .stopped (cutInside d outer)

def begin (outer : List Frame) : Token → Progress
  | .null => supply .null outer
  | .bool b => supply (.bool b) outer
  | .number n => supply (.number n) outer
  | .string s => if s.ending = .closed then supply (.string s) outer else stop (.string s) outer
  | .openList => .inList [] .opened outer
  | .openObject => .inObject [] .opened outer
  | .broken fault => stop (.broken fault) outer
  | .closeList | .closeObject | .comma | .colon => stop (.broken .stray) outer

def beginMember (members : List Member) (outer : List Frame) : Token → Progress
  | .string key =>
    if key.ending = .closed then .afterKey key members outer
    else stop (.broken .missing) (.object members key :: outer)
  | _ => stop (.object members.reverse .noKey) outer

def step : Progress → Token → Progress
  | .value outer, token => begin outer token
  | .inList items .opened outer, .closeList => supply (.list items.reverse .closed) outer
  | .inList items .opened outer, token => begin (.list items :: outer) token
  | .inList items .afterValue outer, .closeList => supply (.list items.reverse .closed) outer
  | .inList items .afterValue outer, .comma => .inList items .afterComma outer
  | .inList items .afterValue outer, _ => stop (.list items.reverse .noComma) outer
  | .inList items .afterComma outer, .closeList => stop (.list items.reverse .trailing) outer
  | .inList items .afterComma outer, token => begin (.list items :: outer) token
  | .inObject members .opened outer, .closeObject =>
    supply (.object members.reverse .closed) outer
  | .inObject members .opened outer, token => beginMember members outer token
  | .inObject members .afterValue outer, .closeObject =>
    supply (.object members.reverse .closed) outer
  | .inObject members .afterValue outer, .comma => .inObject members .afterComma outer
  | .inObject members .afterValue outer, _ => stop (.object members.reverse .noComma) outer
  | .inObject members .afterComma outer, .closeObject =>
    stop (.object members.reverse .trailing) outer
  | .inObject members .afterComma outer, token => beginMember members outer token
  | .afterKey key members outer, .colon => .value (.object members key :: outer)
  | .afterKey key members outer, _ =>
    stop (.broken (.colon .filled)) (.object members key :: outer)
  | .complete d _, _ => .complete d true
  | .stopped d, _ => .stopped d

def finish : Progress → Draft
  | .value outer => cutInside (.broken .missing) outer
  | .inList items .afterComma outer => cutInside (.broken .missing) (.list items :: outer)
  | .inList items _ outer => cutInside (.list items.reverse .cutShort) outer
  | .inObject members .afterComma outer => cutInside (.object members.reverse .cutAfterComma) outer
  | .inObject members _ outer => cutInside (.object members.reverse .cutShort) outer
  | .afterKey key members outer =>
    cutInside (.broken (.colon .atEnd)) (.object members key :: outer)
  | .complete d _ => d
  | .stopped d => d

def hasMore : Progress → Bool
  | .complete _ more => more
  | _ => false

def ofText (text : String) : Progress := (tokens text.toList).foldl step (.value [])

end Progress

/-! ## Passing over a value

Nothing is needed of the value, so numbers may be beyond every double, strings may hold half pairs
and nesting has no limit.
-/

def Fault.skipError : Fault → ReadError
  | .missing => .endOf .value
  | .word _ .atEnd => .endOf .value
  | .word _ .filled => .expectedWord
  | .numeral _ => .invalidNumber
  | .stray => .expectedValue
  | .colon .atEnd => .endOf .object
  | .colon .filled => .expectedColon

def ListEnd.skip : ListEnd → Except ReadError Unit
  | .closed | .broken => .ok ()
  | .cutShort => .error (.endOf .list)
  | .noComma => .error .expectedCommaInList
  | .trailing => .error .expectedValue

def ObjectEnd.skip : ObjectEnd → Except ReadError Unit
  | .closed | .broken => .ok ()
  | .cutShort | .cutAfterComma => .error (.endOf .object)
  | .noComma => .error .expectedCommaInObject
  | .noKey | .trailing => .error .expectedKey

mutual

def Draft.skip : Draft → Except ReadError Unit
  | .null | .bool _ | .number _ => .ok ()
  | .string s => s.skip
  | .list items ending => do
    skipItems items
    ending.skip
  | .object members ending => do
    skipMembers members
    ending.skip
  | .broken fault => .error fault.skipError

def skipItems : List Draft → Except ReadError Unit
  | [] => .ok ()
  | d :: rest => do
    d.skip
    skipItems rest

def skipMembers : List Member → Except ReadError Unit
  | [] => .ok ()
  | (key, d) :: rest => do
    key.skip
    d.skip
    skipMembers rest

end

end DocstringTags.Json
