/-!
# Digits and numbers of 64 bits

* `digitValue?`, `hexValue?`: the value of a digit in bases up to 16;
* `valueOf`, `valueOf?`: the value of a list of digits;
* `wordLimit`, `signLimit`: the limits of unsigned and signed words;
* `int64?`: a signed integer that fits in 64 bits.
-/

namespace PhpDecl.Text

/-- The value of a hexadecimal digit. -/
def hexValue? (c : Char) : Option Nat :=
  if '0' ≤ c && c ≤ '9' then some (c.toNat - '0'.toNat)
  else if 'a' ≤ c && c ≤ 'f' then some (c.toNat - 'a'.toNat + 10)
  else if 'A' ≤ c && c ≤ 'F' then some (c.toNat - 'A'.toNat + 10)
  else none

/-- A hexadecimal digit. -/
def isHex (c : Char) : Bool := (hexValue? c).isSome

/-- The value of a digit in a base. -/
def digitValue? (base : Nat) (c : Char) : Option Nat := do
  let n ← hexValue? c
  if n < base then some n else none

/-- The value of a list of digits after the digits with value `n`. -/
def valueFrom? (base n : Nat) : List Char → Option Nat
  | [] => some n
  | c :: cs => do
    let d ← digitValue? base c
    valueFrom? base (n * base + d) cs

/-- The value of a list of digits, at least one. -/
def valueOf? (base : Nat) (cs : List Char) : Option Nat :=
  if cs.isEmpty then none else valueFrom? base 0 cs

/-- The number of words of 64 bits: the first number that does not fit in one. -/
def wordLimit : Nat := 0x10000000000000000

/-- The first number that does not fit in a signed word of 64 bits. -/
def signLimit : Nat := 0x8000000000000000

/-- The integer with a sign and a magnitude, if it fits in a signed word of 64 bits. -/
def int64? (negative : Bool) (magnitude : Nat) : Option Int :=
  if negative then
    if magnitude ≤ signLimit then some (-(magnitude : Int)) else none
  else if magnitude < signLimit then some magnitude
  else none

/-- The character with the code point that hexadecimal digits give, surrogates excluded. -/
def hexChar? (digits : List Char) : Option Char := do
  let n ← valueOf? 16 digits
  if n.isValidChar then some (Char.ofNat n) else none

end PhpDecl.Text
