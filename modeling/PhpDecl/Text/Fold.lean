/-!
# Names up to case

Names of document fields are ASCII. Besides the ASCII letters of the other case, two characters
have an ASCII letter among their case variants: the long s and the Kelvin sign.

* `foldChar`: the upper-case ASCII letter among the variants of a character, if there is one;
* `sameFold`: two names are equal up to case. The first one is any text, the second one ASCII.
-/

namespace PhpDecl.Text

/-- A character with its case variants identified, as far as they can meet ASCII. -/
def foldChar (c : Char) : Char :=
  if c = 'ſ' then 'S' else if c = '\u212A' then 'K' else c.toUpper

/-- A text is an ASCII name up to case. -/
def sameFold (s name : String) : Bool := s.toList.map foldChar == name.toList.map foldChar

end PhpDecl.Text
