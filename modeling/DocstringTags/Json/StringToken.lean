import DocstringTags.Json.ReadError
import DocstringTags.Text.Bytes

/-! Strings of JSON as they are written. An escaped unit of a pair is judged only when the string is
read, so a string that is passed over may hold half a pair.
-/

set_option autoImplicit false

namespace DocstringTags.Json

/-- A piece of a string: a character, or a unit given by its number. -/
inductive Piece where
  | char (c : Char)
  | unit (n : Nat)
  deriving DecidableEq, Repr

inductive StringEnd where
  | closed
  | cutShort
  | control
  | badEscape
  | badUnit
  deriving DecidableEq, Repr

structure StringToken where
  pieces : List Piece
  ending : StringEnd
  deriving DecidableEq, Repr

def escaped? (c : Char) : Option Char :=
  if c = '"' ∨ c = '\\' ∨ c = '/' then some c
  else if c = 'b' then some '\x08'
  else if c = 'f' then some '\x0c'
  else if c = 'n' then some '\n'
  else if c = 'r' then some '\r'
  else if c = 't' then some '\t'
  else none

def unit? (a b c d : Char) : Option Nat := do
  let a ← Text.hexValue? a
  let b ← Text.hexValue? b
  let c ← Text.hexValue? c
  let d ← Text.hexValue? d
  return ((16 * a + b) * 16 + c) * 16 + d

def StringToken.push (p : Piece) : StringToken × List Char → StringToken × List Char
  | (s, rest) => (⟨p :: s.pieces, s.ending⟩, rest)

def scanString : List Char → StringToken × List Char
  | [] => (⟨[], .cutShort⟩, [])
  | c :: cs =>
    if c = '"' then (⟨[], .closed⟩, cs)
    else if c = '\\' then
      match cs with
      | [] => (⟨[], .cutShort⟩, [])
      | e :: cs =>
        if e = 'u' then
          match cs with
          | a :: b :: c :: d :: cs =>
            match unit? a b c d with
            | some n => StringToken.push (.unit n) (scanString cs)
            | none => (⟨[], .badUnit⟩, [])
          | few => (⟨[], if Text.byteSize few < 4 then .cutShort else .badUnit⟩, [])
        else
          match escaped? e with
          | some c => StringToken.push (.char c) (scanString cs)
          | none => (⟨[], .badEscape⟩, [])
    else if c.toNat < 0x20 then (⟨[], .control⟩, [])
    else StringToken.push (.char c) (scanString cs)

def StringEnd.fault? : StringEnd → Option ReadError
  | .closed => none
  | .cutShort => some (.endOf .string)
  | .control => some .controlCharacter
  | .badEscape | .badUnit => some .invalidEscape

def StringEnd.afterHigh : StringEnd → ReadError
  | .cutShort => .endOf .string
  | .badUnit => .invalidEscape
  | .closed | .control | .badEscape => .unfinishedPair

def readPieces (ending : StringEnd) : List Piece → Except ReadError (List Char)
  | [] =>
    match ending.fault? with
    | none => .ok []
    | some e => .error e
  | .char c :: rest => (readPieces ending rest).map (c :: ·)
  | .unit n :: rest =>
    if Text.isLowUnit n then .error .lonelyUnit
    else if Text.isHighUnit n then
      match rest with
      | [] => .error ending.afterHigh
      | .char _ :: _ => .error .unfinishedPair
      | .unit m :: rest =>
        if Text.isLowUnit m then (readPieces ending rest).map (Text.joinUnits n m :: ·)
        else .error .lonelyUnit
    else (readPieces ending rest).map (Char.ofNat n :: ·)

def StringToken.text (s : StringToken) : Except ReadError String :=
  (readPieces s.ending s.pieces).map String.ofList

def StringToken.skip (s : StringToken) : Except ReadError Unit :=
  match s.ending.fault? with
  | none => .ok ()
  | some e => .error e

end DocstringTags.Json
