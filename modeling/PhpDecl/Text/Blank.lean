import PhpDecl.Text.Ranges

/-!
# White space

The characters that count as white space around a comment line or a type, and trimming.

* `blankRanges`, `isBlank`: the white space of the Unicode character database, 25 characters;
* `trimStart`, `trimEnd`, `trimChars`: trimming on lists of characters.
-/

namespace PhpDecl.Text

/-- The characters with the property White_Space. -/
def blankRanges : Ranges :=
  [(0x9, 0xD), (0x20, 0x20), (0x85, 0x85), (0xA0, 0xA0), (0x1680, 0x1680), (0x2000, 0x200A),
   (0x2028, 0x2029), (0x202F, 0x202F), (0x205F, 0x205F), (0x3000, 0x3000)]

/-- White space, line breaks and no-break spaces included. -/
def isBlank (c : Char) : Bool := blankRanges.has c

/-- Without the white space at the start. -/
def trimStart (cs : List Char) : List Char := cs.dropWhile isBlank

/-- Without the white space at the end. -/
def trimEnd (cs : List Char) : List Char := (cs.reverse.dropWhile isBlank).reverse

/-- Without the white space at both ends. -/
def trimChars (cs : List Char) : List Char := trimEnd (trimStart cs)

@[simp] theorem trimEnd_nil : trimEnd [] = [] := rfl

end PhpDecl.Text
