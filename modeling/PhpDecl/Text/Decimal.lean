import PhpDecl.Text.Digit

/-!
# Decimal numbers and the floats next to them

* `Decimal`: a number with a power of ten;
* `Decimal.ofChars?`: digits with a point and an exponent;
* `Decimal.isFinite`: the number is near a finite float of 64 bits;
* `roundDiv`, `nearestFloor`: rounding to the nearest, and the whole part of the nearest float;
* `Decimal.whole`: the whole part of the float next to a number.
-/

namespace PhpDecl.Text

/-- The number `coefficient * 10 ^ exponent`, with a sign. -/
structure Decimal where
  negative : Bool
  coefficient : Nat
  exponent : Int
  deriving DecidableEq, Repr

/-- The characters without a sign in front, and whether the sign was a minus. -/
def dropSign : List Char → Bool × List Char
  | '-' :: cs => (true, cs)
  | '+' :: cs => (false, cs)
  | cs => (false, cs)

/-- An integer with an optional sign in a base, of any size. -/
def signedValue? (base : Nat) (cs : List Char) : Option (Bool × Nat) := do
  let (negative, ds) := dropSign cs
  let n ← valueOf? base ds
  return (negative, n)

namespace Decimal

/-- The exponent that follows the digits of a number, zero if there is none. -/
def exponentOf? : List Char → Option Int
  | [] => some 0
  | e :: cs =>
    if e = 'e' || e = 'E' then
      (signedValue? 10 cs).map fun (negative, n) => if negative then -(n : Int) else n
    else none

/-- The fraction at the start of a text, and the text after it. -/
def splitFraction : List Char → List Char × List Char
  | '.' :: cs => (cs.takeWhile Char.isDigit, cs.dropWhile Char.isDigit)
  | cs => ([], cs)

/-- The number of its characters: a sign, digits with at most one point, at least one of them, and
an exponent. -/
def ofChars? (cs : List Char) : Option Decimal := do
  let (negative, body) := dropSign cs
  let whole := body.takeWhile Char.isDigit
  let (fraction, rest) := splitFraction (body.dropWhile Char.isDigit)
  let coefficient ← valueOf? 10 (whole ++ fraction)
  let exponent ← exponentOf? rest
  return ⟨negative, coefficient, exponent - fraction.length⟩

/-- The largest finite float plus half a unit of its last place: what reaches it is no float. -/
def limit : Nat := Nat.pow 2 1024 - Nat.pow 2 970

/-- The number is so small that it is next to zero, or nearly so. -/
def isTiny (d : Decimal) : Bool :=
  d.coefficient = 0 || decide ((d.coefficient.log2 : Int) + 2 ≤ -d.exponent)

/-- The number is near a finite float. -/
def isFinite (d : Decimal) : Bool :=
  if d.isTiny then true
  else if d.exponent > 400 then false
  else if d.exponent ≥ 0 then decide (d.coefficient * Nat.pow 10 d.exponent.toNat < limit)
  else decide (d.coefficient < limit * Nat.pow 10 (-d.exponent).toNat)

end Decimal

/-- A quotient rounded to the nearest number, a half to the even one. -/
def roundDiv (n d : Nat) : Nat :=
  let q := n / d
  let r := n % d
  if 2 * r > d || (2 * r = d && q % 2 = 1) then q + 1 else q

/-- The number of binary digits. -/
def bitLength (n : Nat) : Nat := if n = 0 then 0 else n.log2 + 1

/-- The whole part of the float with 53 binary digits that is nearest to a quotient. -/
def nearestFloor (n d : Nat) : Nat :=
  let bits := bitLength (n / d)
  if bits ≤ 53 then
    let unit := Nat.pow 2 (53 - bits)
    roundDiv (n * unit) d / unit
  else
    let unit := Nat.pow 2 (bits - 53)
    roundDiv n (d * unit) * unit

/-- The whole part, without the sign, of the float next to a finite number. -/
def Decimal.whole (d : Decimal) : Nat :=
  if d.isTiny then 0
  else if d.exponent ≥ 0 then nearestFloor (d.coefficient * Nat.pow 10 d.exponent.toNat) 1
  else nearestFloor d.coefficient (Nat.pow 10 (-d.exponent).toNat)

end PhpDecl.Text
