/-!
# Words of sixteen bits as characters

* `Utf16.words?`: the words of a list of bytes, the high or the low byte first;
* `Utf16.decode?`: the characters of words, without lone surrogates.
-/

namespace PhpDecl.Text.Utf16

/-- The words of a list of bytes. -/
def words? (highFirst : Bool) : List UInt8 → Option (List Nat)
  | [] => some []
  | a :: b :: rest => do
    let more ← words? highFirst rest
    return (if highFirst then a.toNat * 256 + b.toNat else b.toNat * 256 + a.toNat) :: more
  | [_] => none

/-- The word is the first half of a pair. -/
def isHigh (w : Nat) : Bool := 0xD800 ≤ w && w < 0xDC00

/-- The word is the second half of a pair. -/
def isLow (w : Nat) : Bool := 0xDC00 ≤ w && w < 0xE000

/-- The characters of words. -/
def decode? : List Nat → Option (List Char)
  | [] => some []
  | w :: rest =>
    if isLow w then none
    else if isHigh w then
      match rest with
      | v :: after =>
        if isLow v then do
          let more ← decode? after
          return Char.ofNat ((w - 0xD800) * 0x400 + (v - 0xDC00) + 0x10000) :: more
        else none
      | [] => none
    else (decode? rest).map (Char.ofNat w :: ·)

end PhpDecl.Text.Utf16
