/-!
# A place in a YAML text

* `isBlank`, `isBreak`, `isWord`: classes of characters;
* `Cursor`: the text that is left, with the place it starts at;
* `Cursor.skip`, `Cursor.skipWhile`, `Cursor.readBreak`: ways to go on;
* `Cursor.atDocumentMark`: the line starts or ends a document.
-/

namespace PhpDecl.Yaml

/-- White space inside a line. -/
def isBlank (c : Char) : Bool := c = ' ' || c = '\t'

/-- A line break, or the first half of one. -/
def isBreak (c : Char) : Bool :=
  c = '\r' || c = '\n' || c = '\u0085' || c = '\u2028' || c = '\u2029'

/-- A character of a name. -/
def isWord (c : Char) : Bool :=
  c.isDigit || ('A' ≤ c && c ≤ 'Z') || ('a' ≤ c && c ≤ 'z') || c = '_' || c = '-'

/-- White space, a line break or the end of the text comes next. -/
def blankNext : List Char → Bool
  | [] => true
  | c :: _ => isBlank c || isBreak c

/-- A line break or the end of the text comes next. -/
def breakNext : List Char → Bool
  | [] => true
  | c :: _ => isBreak c

/-- A place in a text. -/
structure Cursor where
  rest : List Char
  index : Nat := 0
  line : Nat := 0
  column : Nat := 0
  /-- Nothing but white space was read since the last line break. -/
  fresh : Bool := false

namespace Cursor

/-- The place after the next `n` characters, none of which is a line break. -/
def skip (c : Cursor) (n : Nat) : Cursor :=
  { c with
    rest := c.rest.drop n
    index := c.index + n
    column := c.column + n
    fresh := c.fresh && (c.rest.take n).all isBlank }

/-- The characters of some class that come next. -/
def takeWhile (c : Cursor) (p : Char → Bool) : List Char := c.rest.takeWhile p

/-- The place after the characters of some class that come next. -/
def skipWhile (c : Cursor) (p : Char → Bool) : Cursor := c.skip (c.takeWhile p).length

/-- The line break that comes next, as it stands in a scalar, and the place after it. -/
def readBreak (c : Cursor) : List Char × Cursor :=
  let next (text : List Char) (n : Nat) : List Char × Cursor :=
    (text, ⟨c.rest.drop n, c.index + n, c.line + 1, 0, true⟩)
  match c.rest with
  | '\r' :: '\n' :: _ => next ['\n'] 2
  | b :: _ =>
    if b = '\u2028' || b = '\u2029' then next [b] 1
    else if isBreak b then next ['\n'] 1
    else ([], c)
  | [] => ([], c)

/-- The place after the line break that comes next. -/
def skipBreak (c : Cursor) : Cursor := c.readBreak.2

/-- The place after a comment, at the end of its line. -/
def skipComment (c : Cursor) : Cursor := c.skipWhile fun x => !isBreak x

/-- The line starts or ends a document. -/
def atDocumentMark (c : Cursor) : Bool :=
  c.column = 0 &&
    match c.rest with
    | '-' :: '-' :: '-' :: rest => blankNext rest
    | '.' :: '.' :: '.' :: rest => blankNext rest
    | _ => false

end Cursor

end PhpDecl.Yaml
