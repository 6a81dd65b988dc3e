import DocstringTags.Json.Reader

/-! Records with named fields, written as objects or as lists of the fields in order. A record is
filled field by field in the order of the text; afterwards the fields are put together, which is
where a missing one shows. Where a value may be of several kinds, all of it is read before its
fields are judged, since the kind may come last; only the kind itself is judged where it stands.
-/

set_option autoImplicit false

namespace DocstringTags.Json

/-- Where a draft comes from: straight from the text, or from a value that was read in full before. -/
inductive Origin where
  | text
  | value
  deriving DecidableEq, Repr

structure Field (σ : Type) where
  name : String
  isFilled : σ → Bool
  fill : σ → Draft → Except ReadError σ
  mayLack : Bool

def Field.of {σ α : Type} (name : String) (get : σ → Option α) (set : σ → Option α → σ)
    (reader : Reader α) (mayLack : Bool) : Field σ where
  name := name
  isFilled s := (get s).isSome
  fill s d := (reader d).map fun value => set s (some value)
  mayLack := mayLack

structure Record (σ α : Type) where
  name : String
  empty : σ
  fields : List (Field σ)
  build : σ → Except ReadError α

def require {α : Type} (name : String) : Option α → Except ReadError α
  | some value => .ok value
  | none => .error (.missingField name)

def counted (n : Nat) : String :=
  toString n ++ if n = 1 then " element" else " elements"

namespace Record

variable {σ α : Type}

def fillMembers (fields : List (Field σ)) : σ → List Member → Except ReadError σ
  | s, [] => .ok s
  | s, (key, d) :: rest => do
    let name ← key.text
    match fields.find? (·.name == name) with
    | some field =>
      if field.isFilled s then .error (.duplicateField name)
      else fillMembers fields (← field.fill s d) rest
    | none => do
      d.skip
      fillMembers fields s rest

def ofMembers (r : Record σ α) (members : List Member) (ending : ObjectEnd) :
    Except ReadError α := do
  let filled ← fillMembers r.fields r.empty members
  ending.check
  r.build filled

/-- Whether a list that is too long for a record ends well. From a text the first character after
the last field decides. -/
def checkExcess (origin : Origin) (wanted : Nat) (items excess : List Draft) (ending : ListEnd) :
    Except ReadError Unit :=
  match origin, excess, ending with
  | .value, [], _ => .ok ()
  | .value, _ :: _, _ => .error (.wrongLength items.length (counted wanted ++ " in sequence"))
  | .text, [], .closed | .text, [], .broken => .ok ()
  | .text, [], .cutShort => .error (.endOf .list)
  | .text, [], .trailing => .error .trailingComma
  | .text, [], .noComma | .text, _ :: _, _ => .error .trailingCharacters

def fillItems (short : ReadError) (ending : ListEnd) :
    List (Field σ) → σ → List Draft → Except ReadError (σ × List Draft)
  | [], s, items => .ok (s, items)
  | field :: fields, s, d :: items => do
    fillItems short ending fields (← field.fill s d) items
  | field :: fields, s, [] => do
    ending.check
    if field.mayLack then fillItems short ending fields s [] else .error short

def ofItems (r : Record σ α) (origin : Origin) (items : List Draft) (ending : ListEnd) :
    Except ReadError α := do
  let wanted := r.fields.length
  let short := ReadError.wrongLength items.length
    ("struct " ++ r.name ++ " with " ++ counted wanted)
  let (filled, excess) ← fillItems short ending r.fields r.empty items
  checkExcess origin wanted items excess ending
  r.build filled

def read (r : Nat → Record σ α) (origin : Origin) (depth : Nat) : Reader α
  | .list items ending =>
    match depth with
    | 0 => .error .tooDeep
    | depth + 1 => (r depth).ofItems origin items ending
  | .object members ending =>
    match depth with
    | 0 => .error .tooDeep
    | depth + 1 => (r depth).ofMembers members ending
  | d => mismatch ("struct " ++ (r depth).name) d.found

end Record

inductive Payload where
  | members (members : List Member)
  | items (items : List Draft)

def kindName : String := "kind"

/-- A kind by its name. Inside a value that was read before, a kind may be given by its place too. -/
def readKind {κ : Type} (kinds : List (String × κ)) (origin : Origin) : Reader κ
  | .string s => do findVariant kinds (← s.text)
  | .number n =>
    match origin, n.number with
    | .value, .ok (.natural i) =>
      match kinds[i]? with
      | some kind => .ok kind.2
      | none =>
        .error (.wrongValue (.number (.natural i))
          ("variant index 0 <= i < " ++ toString kinds.length))
    | _, found => mismatch "variant identifier" (found.map .number)
  | d => mismatch "variant identifier" d.found

/-- Reads a value for its form only. -/
def checkForm (origin : Origin) (depth : Nat) (d : Draft) : Except ReadError Unit :=
  match origin with
  | .text => (readJson depth d).map fun _ => ()
  | .value => .ok ()

def splitKind {κ : Type} (kinds : List (String × κ)) (origin : Origin) (depth : Nat) :
    Option κ → List Member → Except ReadError (Option κ × List Member)
  | kind?, [] => .ok (kind?, [])
  | kind?, (key, d) :: rest => do
    if (← key.text) = kindName then
      if kind?.isSome then .error (.duplicateField kindName)
      else splitKind kinds origin depth (some (← readKind kinds origin d)) rest
    else
      checkForm origin depth d
      let (kind?, others) ← splitKind kinds origin depth kind? rest
      return (kind?, (key, d) :: others)

def readTagged {κ : Type} (name : String) (kinds : List (String × κ)) (origin : Origin)
    (depth : Nat) : Reader (κ × Payload)
  | .object members ending =>
    match depth with
    | 0 => .error .tooDeep
    | depth + 1 => do
      let (kind?, others) ← splitKind kinds origin depth none members
      ending.check
      return (← require kindName kind?, .members others)
  | .list items ending =>
    match depth, items with
    | 0, _ => .error .tooDeep
    | _ + 1, [] => do
      ending.check
      .error (.missingField kindName)
    | depth + 1, first :: rest => do
      let kind ← readKind kinds origin first
      rest.forM (checkForm origin depth)
      ending.check
      return (kind, .items rest)
  | d => mismatch ("internally tagged enum " ++ name) d.found

def Payload.record {σ α : Type} (r : Record σ α) : Payload → Except ReadError α
  | .members fields => r.ofMembers fields .closed
  | .items fields => r.ofItems .value fields .closed

def Payload.unit : Payload → Except ReadError Unit
  | .members _ => .ok ()
  | .items [] => .ok ()
  | .items fields => .error (.wrongLength fields.length (counted 0 ++ " in sequence"))

end DocstringTags.Json
