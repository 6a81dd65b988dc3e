import DocstringTags.Text.Digits

set_option autoImplicit false

namespace DocstringTags

namespace Literal

/-- First and last code point of each interval of format characters that are always escaped. -/
def formatRanges : List (Nat × Nat) :=
  [(0xAD, 0xAD), (0x600, 0x605), (0x61C, 0x61C), (0x6DD, 0x6DD), (0x70F, 0x70F), (0x180E, 0x180E),
   (0x200B, 0x200F), (0x202A, 0x202E), (0x2060, 0x2064), (0x2066, 0x206F), (0xFEFF, 0xFEFF),
   (0xFFF9, 0xFFFB)]

def isControl (n : Nat) : Bool := decide (n < 0x20) || (decide (0x7F ≤ n) && decide (n ≤ 0x9F))

def isSeparator (n : Nat) : Bool := n == 0x2028 || n == 0x2029

def isPrivateUse (n : Nat) : Bool := decide (0xE000 ≤ n) && decide (n ≤ 0xF8FF)

def isPlain (c : Char) : Bool :=
  !(isControl c.toNat || decide (0xFFFF < c.toNat) || isSeparator c.toNat ||
    formatRanges.any (fun r => decide (r.1 ≤ c.toNat) && decide (c.toNat ≤ r.2)) ||
    isPrivateUse c.toNat)

def escapeUnit (n : Nat) : List Char := '\\' :: 'u' :: (Text.hexDigits n).map Char.toUpper

def escapeChar (c : Char) : List Char :=
  if c = '\x08' then ['\\', 'b']
  else if c = '\t' then ['\\', 't']
  else if c = '\n' then ['\\', 'n']
  else if c = '\x0c' then ['\\', 'f']
  else if c = '\r' then ['\\', 'r']
  else if c = '"' then ['\\', '"']
  else if c = '\\' then ['\\', '\\']
  else if isPlain c then [c]
  else (Text.units c).flatMap escapeUnit

def escape (value : String) : String := String.ofList (value.toList.flatMap escapeChar)

def quote (escape : String → String) (value : String) : String :=
  String.ofList ('"' :: (escape value).toList ++ ['"'])

end Literal

/-- How values become expressions: a way to escape them and a reader of quoted literals. -/
structure LiteralBuilder (ε α : Type) where
  escape : String → String := Literal.escape
  expression : String → Except ε α

def LiteralBuilder.create {ε α : Type} (b : LiteralBuilder ε α) (value : String) : Except ε α :=
  b.expression (Literal.quote b.escape value)

def LiteralBuilder.source (escape : String → String) : LiteralBuilder Empty String :=
  { escape := escape, expression := .ok }

def LiteralBuilder.literal (b : LiteralBuilder Empty String) (value : String) : String :=
  match b.create value with
  | .ok literal => literal
  | .error e => nomatch e

end DocstringTags
