import PhpDecl.Text.Blank

/-!
# Comments

A comment is kept as its whole text, markers included. Before it is printed its lines are
realigned: white space around every line goes, and a line of a block comment that starts with
`*` stands one space to the right, under the star of the opening marker.

* `Comment`, `Comment.line`, `Comment.doc`: a comment, and the two usual ways to make one;
* `Comment.lines`: its realigned lines.
-/

namespace PhpDecl

/-- A comment in front of an element, with its markers. -/
structure Comment where
  text : String
  deriving DecidableEq, Repr

namespace Comment

/-- A comment of one line. -/
def line (text : String) : Comment := ⟨"// " ++ text⟩

/-- A documentation comment. -/
def doc (text : String) : Comment := ⟨"/** " ++ text ++ " */"⟩

/-- A continuation line without the white space around it; a leading star is set one space to the
right. -/
def realign (cs : List Char) : List Char :=
  match Text.trimChars cs with
  | '*' :: rest => ' ' :: '*' :: rest
  | rest => rest

/-- The lines of a list of characters: the first as it is, the others realigned. -/
def realignTail : List (List Char) → List (List Char)
  | [] => []
  | first :: rest => first :: rest.map realign

/-- The lines of a comment as they are printed, without indentation. -/
def lines (c : Comment) : List (List Char) :=
  realignTail ((Text.trimChars c.text.toList).splitOn '\n')

end Comment

end PhpDecl
