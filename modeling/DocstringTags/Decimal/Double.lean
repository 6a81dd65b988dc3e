/-! Floating-point numbers of double width, without their sign. All arithmetic is exact on natural
numbers and rounds once, to the nearest number and to the even one of two that are equally near. Of
the decimals with the fewest digits that read back as a number the one nearest to it is written.
-/

set_option autoImplicit false

namespace DocstringTags.Decimal

def twoTo (n : Nat) : Nat := Nat.pow 2 n

def tenTo (n : Nat) : Nat := Nat.pow 10 n

def roundQuotient (num den : Nat) : Nat :=
  let q := num / den
  let twice := 2 * (num % den)
  if twice < den then q
  else if den < twice then q + 1
  else if q % 2 = 0 then q else q + 1

/-- The exponent of the smallest positive double, with its sign changed. -/
def unitBits : Nat := 1074

/-- The number `mantissa * 2 ^ shift` counted in the smallest positive double. The mantissa has at
most 53 bits, and exactly so many where the shift is positive. -/
structure Double where
  mantissa : Nat
  shift : Nat
  deriving DecidableEq, Repr

namespace Double

def zero : Double := ⟨0, 0⟩

def units (x : Double) : Nat := x.mantissa * twoTo x.shift

def maxShift : Nat := 2045

def ofUnits? (num den : Nat) : Option Double :=
  let shift := Nat.log2 (num / den) - 52
  let mantissa := roundQuotient num (den * twoTo shift)
  let x : Double := if mantissa = twoTo 53 then ⟨twoTo 52, shift + 1⟩ else ⟨mantissa, shift⟩
  if x.shift ≤ maxShift then some x else none

def ofNat? (n : Nat) : Option Double := ofUnits? (n * twoTo unitBits) 1

def mul? (x y : Double) : Option Double := ofUnits? (x.units * y.units) (twoTo unitBits)

def div? (x y : Double) : Option Double := ofUnits? (x.units * twoTo unitBits) y.units

def maxPower : Nat := 308

/-- Times a power of ten. The power is rounded first, so the product is rounded twice. -/
def timesPower? (x : Double) (e : Nat) : Option Double :=
  if e ≤ maxPower then (ofNat? (tenTo e)).bind x.mul?
  else if x = zero then some zero
  else none

def overPower? (x : Double) (e : Nat) : Option Double :=
  if _h : e ≤ maxPower then (ofNat? (tenTo e)).bind x.div?
  else if x = zero then some zero
  else ((ofNat? (tenTo maxPower)).bind x.div?).bind (·.overPower? (e - maxPower))
termination_by e
decreasing_by simp only [maxPower] at *; omega

end Double

structure Scientific where
  digits : Nat
  exponent : Int
  deriving DecidableEq, Repr

/-- A positive rational number and the ends of the interval that rounds to it, all over one
denominator. -/
structure Target where
  low : Nat
  value : Nat
  high : Nat
  den : Nat
  closed : Bool

/-- The interval of a double in quarters of the smallest unit. It reaches half way to both
neighbours; below a power of two the neighbour is nearer. -/
def Double.target (x : Double) : Target :=
  let unit := twoTo x.shift
  let below := if x.mantissa = twoTo 52 ∧ x.shift ≠ 0 then unit else 2 * unit
  { low := 4 * x.units - below, value := 4 * x.units, high := 4 * x.units + 2 * unit
    den := twoTo (unitBits + 2), closed := x.mantissa % 2 == 0 }

def Target.admits (t : Target) (num den : Nat) : Bool :=
  if t.closed then decide (t.low * den ≤ num * t.den) && decide (num * t.den ≤ t.high * den)
  else decide (t.low * den < num * t.den) && decide (num * t.den < t.high * den)

def Target.scaled (t : Target) (e : Int) : Nat × Nat :=
  (t.value * tenTo (-e).toNat, t.den * tenTo e.toNat)

def multiple (n : Nat) (e : Int) : Nat × Nat := (n * tenTo e.toNat, tenTo (-e).toNat)

def Target.onGrid? (t : Target) (e : Int) : Option Scientific :=
  let (num, den) := t.scaled e
  let floor := num / den
  let fits (n : Nat) : Bool := t.admits (multiple n e).1 (multiple n e).2
  let nearer := roundQuotient num den
  let further := if nearer = floor then floor + 1 else floor
  if fits nearer then some ⟨nearer, e⟩
  else if fits further then some ⟨further, e⟩
  else none

def Target.leading (t : Target) (e : Int) : Nat → Int
  | 0 => e
  | fuel + 1 => if (t.scaled e).2 ≤ (t.scaled e).1 then e else t.leading (e - 1) fuel

def Target.shortest (t : Target) (e : Int) : Nat → Scientific
  | 0 => ⟨(t.scaled e).1 / (t.scaled e).2, e⟩
  | fuel + 1 =>
    match t.onGrid? e with
    | some s => s
    | none => t.shortest (e - 1) fuel

def Scientific.strip (s : Scientific) : Nat → Scientific
  | 0 => s
  | fuel + 1 =>
    if s.digits ≠ 0 ∧ s.digits % 10 = 0 then strip ⟨s.digits / 10, s.exponent + 1⟩ fuel else s

def Double.shortest (x : Double) : Scientific :=
  if x.mantissa = 0 then ⟨0, 0⟩
  else (x.target.shortest (x.target.leading 308 632) 17).strip 17

structure Layout where
  leastPlain : Int
  mostPlain : Int

def exponentText (e : Int) : String :=
  if e < 0 then "e-" ++ toString (-e).toNat else "e+" ++ toString e.toNat

def Scientific.text (layout : Layout) (s : Scientific) : String :=
  let digits := (toString s.digits).toList
  let first := s.exponent + digits.length - 1
  if layout.leastPlain ≤ first ∧ first ≤ layout.mostPlain then
    if 0 ≤ s.exponent then
      String.ofList (digits ++ List.replicate s.exponent.toNat '0') ++ ".0"
    else if 0 ≤ first then
      String.ofList (digits.take (first.toNat + 1)) ++ "."
        ++ String.ofList (digits.drop (first.toNat + 1))
    else
      "0." ++ String.ofList (List.replicate (-first - 1).toNat '0' ++ digits)
  else
    match digits with
    | [] => ""
    | [digit] => String.ofList [digit] ++ exponentText first
    | digit :: more => String.ofList (digit :: '.' :: more) ++ exponentText first

end DocstringTags.Decimal
