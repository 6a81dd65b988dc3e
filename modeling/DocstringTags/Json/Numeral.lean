import DocstringTags.Json.ReadError
import DocstringTags.Text.Digits

/-! Numerals of JSON: how they are written and which number they stand for. An integer that fits a
machine word is kept; every other numeral is a double, made from as many leading digits as fit a
word and a power of ten.
-/

set_option autoImplicit false

namespace DocstringTags.Json

structure Numeral where
  isNegative : Bool
  whole : List Char
  fraction : List Char
  /-- Whether the exponent is negative, and its digits. -/
  exponent : Option (Bool × List Char)
  deriving DecidableEq, Repr

inductive Gap where
  | atEnd
  | filled
  deriving DecidableEq, Repr

def gapBefore : List Char → Gap
  | [] => .atEnd
  | _ :: _ => .filled

def scanDigits (cs : List Char) : Except Gap (List Char × List Char) :=
  match cs.takeWhile Char.isDigit with
  | [] => .error (gapBefore cs)
  | digits => .ok (digits, cs.dropWhile Char.isDigit)

def scanWhole : List Char → Except Gap (List Char × List Char)
  | '0' :: c :: cs => if c.isDigit then .error .filled else .ok (['0'], c :: cs)
  | cs => scanDigits cs

def scanFraction : List Char → Except Gap (List Char × List Char)
  | '.' :: cs => scanDigits cs
  | cs => .ok ([], cs)

def scanSign : List Char → Bool × List Char
  | '+' :: cs => (false, cs)
  | '-' :: cs => (true, cs)
  | cs => (false, cs)

def scanExponent : List Char → Except Gap (Option (Bool × List Char) × List Char)
  | [] => .ok (none, [])
  | c :: cs =>
    if c = 'e' ∨ c = 'E' then
      (scanDigits (scanSign cs).2).map fun (digits, rest) => (some ((scanSign cs).1, digits), rest)
    else .ok (none, c :: cs)

def scanSigned (isNegative : Bool) (cs : List Char) : Except Gap (Numeral × List Char) := do
  let (whole, rest) ← scanWhole cs
  let (fraction, rest) ← scanFraction rest
  let (exponent, rest) ← scanExponent rest
  return (⟨isNegative, whole, fraction, exponent⟩, rest)

def scanNumeral : List Char → Except Gap (Numeral × List Char)
  | '-' :: cs => scanSigned true cs
  | cs => scanSigned false cs

def maxWord : Nat := 0xFFFFFFFFFFFFFFFF

def maxNegative : Nat := 0x8000000000000000

/-- The largest number that an exponent can be; anything above is beyond every double. -/
def maxExponent : Nat := 0x7FFFFFFF

def takeDigits (value : Nat) : List Char → Nat × List Char
  | [] => (value, [])
  | c :: cs =>
    if 10 * value + Text.digitValue c ≤ maxWord then
      takeDigits (10 * value + Text.digitValue c) cs
    else (value, c :: cs)

def digitsValue (cs : List Char) : Nat := cs.foldl (fun n c => 10 * n + Text.digitValue c) 0

def scale (significand : Nat) (exponent : Int) : Option Decimal.Double :=
  (Decimal.Double.ofNat? significand).bind fun x =>
    if 0 ≤ exponent then x.timesPower? exponent.toNat else x.overPower? (-exponent).toNat

/-- The double of a numeral, without its sign. Digits that do not fit count as zeros before the
point and not at all behind it. -/
def Numeral.magnitude? (n : Numeral) : Option Decimal.Double :=
  let (whole, unread) := takeDigits 0 n.whole
  let (significand, dropped) := takeDigits whole n.fraction
  let exponent : Int := unread.length - (n.fraction.length - dropped.length : Nat)
  match n.exponent with
  | none => scale significand exponent
  | some (isNegative, digits) =>
    if maxExponent < digitsValue digits then
      if significand ≠ 0 ∧ isNegative = false then none else some .zero
    else if isNegative then scale significand (exponent - digitsValue digits)
    else scale significand (exponent + digitsValue digits)

/-- The number of a numeral, unless it is beyond the doubles. The negative zero is a double. -/
def Numeral.number (n : Numeral) : Except ReadError Number :=
  if n.fraction = [] ∧ n.exponent = none ∧ n.isNegative = false ∧ digitsValue n.whole ≤ maxWord then
    .ok (.natural (digitsValue n.whole))
  else if n.fraction = [] ∧ n.exponent = none ∧ n.isNegative = true ∧
      1 ≤ digitsValue n.whole ∧ digitsValue n.whole ≤ maxNegative then
    .ok (.negative (digitsValue n.whole))
  else
    match n.magnitude? with
    | some x => .ok (.real n.isNegative x)
    | none => .error .numberOutOfRange

end DocstringTags.Json
