/-!
# String literals

A string literal is written between single quotes; inside it a backslash and a single quote are
each preceded by a backslash.

* `literalBody`, `literal`: writing a literal;
* `readLiteralBody`, `readLiteral`: reading one back, with the text that follows it.
-/

namespace PhpDecl.Text

/-- The characters between the quotes of a literal. -/
def literalBody : List Char → List Char
  | [] => []
  | c :: cs => if c = '\\' || c = '\'' then '\\' :: c :: literalBody cs else c :: literalBody cs

/-- A text as a single-quoted literal. -/
def literal (s : String) : String := String.ofList ('\'' :: literalBody s.toList ++ ['\''])

/-- Read a literal after its opening quote: its value and the text after the closing quote. A
backslash stands for the character after it when that is a backslash or a quote, and else for
itself. -/
def readLiteralBody : List Char → Option (List Char × List Char)
  | [] => none
  | '\'' :: rest => some ([], rest)
  | '\\' :: '\\' :: rest => (readLiteralBody rest).map fun r => ('\\' :: r.1, r.2)
  | '\\' :: '\'' :: rest => (readLiteralBody rest).map fun r => ('\'' :: r.1, r.2)
  | c :: rest => (readLiteralBody rest).map fun r => (c :: r.1, r.2)

/-- Read a literal at the start of a text. -/
def readLiteral (s : String) : Option (String × String) :=
  match s.toList with
  | '\'' :: rest => (readLiteralBody rest).map fun r => (String.ofList r.1, String.ofList r.2)
  | _ => none

end PhpDecl.Text
