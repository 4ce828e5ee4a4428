/-!
# Bytes as characters

* `Utf8.first?`: the character that a list of bytes starts with, and the number of its bytes;
* `Utf8.scan`: the characters of a list of bytes, with `none` for every byte that belongs to no
  character;
* `Utf8.decode?`, `Utf8.decodeLossy`: all characters or nothing, and a replacement character for
  every stray byte.
-/

namespace PhpDecl.Text.Utf8

/-- A byte that continues a character, as its six bits. -/
def continuation? (b : UInt8) : Option Nat :=
  if 0x80 ≤ b && b ≤ 0xBF then some (b.toNat - 0x80) else none

/-- The character with a code point of at least `least`, surrogates excluded. -/
def char? (least n : Nat) : Option Char :=
  if least ≤ n && n.isValidChar then some (Char.ofNat n) else none

/-- The character that the bytes start with, in its shortest form, and the number of its bytes. -/
def first? : List UInt8 → Option (Char × Nat)
  | [] => none
  | a :: rest =>
    if a < 0x80 then some (Char.ofNat a.toNat, 1)
    else if 0xC0 ≤ a && a < 0xE0 then
      match rest with
      | b :: _ => do
        let y ← continuation? b
        let c ← char? 0x80 ((a.toNat - 0xC0) * 64 + y)
        return (c, 2)
      | _ => none
    else if 0xE0 ≤ a && a < 0xF0 then
      match rest with
      | b :: c :: _ => do
        let y ← continuation? b
        let z ← continuation? c
        let c ← char? 0x800 (((a.toNat - 0xE0) * 64 + y) * 64 + z)
        return (c, 3)
      | _ => none
    else if 0xF0 ≤ a && a < 0xF8 then
      match rest with
      | b :: c :: d :: _ => do
        let y ← continuation? b
        let z ← continuation? c
        let w ← continuation? d
        let c ← char? 0x10000 ((((a.toNat - 0xF0) * 64 + y) * 64 + z) * 64 + w)
        return (c, 4)
      | _ => none
    else none

/-- The characters of the bytes after the next `skip`, which belong to a character that was read
already. -/
def scanFrom : Nat → List UInt8 → List (Option Char)
  | _, [] => []
  | skip + 1, _ :: rest => scanFrom skip rest
  | 0, a :: rest =>
    match first? (a :: rest) with
    | some (c, n) => some c :: scanFrom (n - 1) rest
    | none => none :: scanFrom 0 rest

/-- The characters of a list of bytes, and `none` for every stray byte. -/
def scan (bytes : List UInt8) : List (Option Char) := scanFrom 0 bytes

/-- The characters of a list of bytes without stray bytes. -/
def decode? (bytes : List UInt8) : Option (List Char) := (scan bytes).mapM id

/-- The character that stands for a byte, or an escape, that is no character. -/
def replacement : Char := '\uFFFD'

/-- The characters of a list of bytes, with the replacement character for every stray byte. -/
def decodeLossy (bytes : List UInt8) : List Char := (scan bytes).map (·.getD replacement)

end PhpDecl.Text.Utf8
