import PhpDecl.Render.Traced
import PhpDecl.Text.Width
import PhpDecl.Tree.Comment

/-!
# Lists of items

An item is anything with comments and a text at every depth. Lists of items are laid out on one
line, or one item per line a level deeper.

* `indentWidth`, `maxLineWidth`, `newline`, `columnAfter`: depth and columns;
* `commentText`: comments at a depth;
* `Item`: comments, and a text that depends on the depth;
* `readComments`, `hasComments`, `askComments`: comments read through pointers that may be null;
* `commaSeparated`, `commaSeparatedMultiline`, `maybeMultiline`, `split`: the ways to write a
  list;
* `Layout`, `fits`, `decideLayout`: one line as long as the list fits on it.
-/

namespace PhpDecl

/-! ## Depth and columns -/

/-- Columns of one level of indentation. -/
def indentWidth : Nat := 4

/-- The last column a list on one line may reach. -/
def maxLineWidth : Int := 120

/-- The indentation of a depth. -/
def indentation (depth : Nat) : String := String.ofList (List.replicate (depth * indentWidth) ' ')

/-- A line break followed by the indentation of the depth. -/
def newline (depth : Int) : Traced String :=
  if depth < 0 then .fail .negativeIndent else .ok ("\n" ++ indentation depth.toNat)

/-- The column at which the text after `lead` starts, when `lead` is written at the beginning of
an indented line. -/
def columnAfter (depth : Int) (lead : String) : Int :=
  if '\n' ∈ lead.toList then
    Text.charsWidth (lead.toList.reverse.takeWhile (· != '\n')).reverse
  else
    depth * indentWidth + Text.width lead

/-- Comments at a depth, every line of them on a line of its own. -/
def commentText (comments : List Comment) (depth : Int) : Traced String := do
  let nl ← newline depth
  return nl.intercalate (comments.flatMap fun c => c.lines.map String.ofList)

/-! ## Items -/

/-- An element of a list. The comments of a null pointer are `none`. -/
structure Item where
  comments : Option (List Comment)
  text : Int → Traced String

/-- The text of an item that may be missing. -/
def itemText : Option Item → Int → Traced String
  | none, _ => .malformed .nilNode
  | some i, depth => i.text depth

/-- The texts of items, up to the first that has none. -/
def itemTexts : List (Option Item) → Int → Traced (List String)
  | [], _ => return []
  | i :: rest, depth => do
    let s ← itemText i depth
    let more ← itemTexts rest depth
    return s :: more

/-- The comments of an element, unless it is a null pointer. -/
def readComments : Option (List Comment) → Traced (List Comment)
  | none => .fail .nullPointer
  | some cs => .ok cs

/-- Some item of the list has a comment. -/
def hasComments (items : List (Option Item)) : Bool :=
  items.any fun
    | some i => i.comments.any fun cs => !cs.isEmpty
    | none => false

/-- Look for an item with a comment: item by item, up to the first that has one. -/
def askComments : List (Option Item) → Traced Bool
  | [] => return false
  | none :: rest => askComments rest
  | some i :: rest => do
    let cs ← readComments i.comments
    if cs.isEmpty then askComments rest else return true

/-- The items on one line. -/
def commaSeparated (items : List (Option Item)) (depth : Int) : Traced String := do
  let parts ← itemTexts items depth
  return ", ".intercalate parts

/-- Comments on lines above an element, nothing when there are none. -/
def leadingComments (comments : List Comment) (depth : Int) : Traced String :=
  if comments.isEmpty then return ""
  else do
    let nl ← newline depth
    let text ← commentText comments depth
    return nl ++ text

/-- One item per line at `depth`, each below its comments; a comma follows every item, the last
one only if `trailing`. -/
def itemLines (trailing : Bool) : List (Option Item) → Int → Traced String
  | [], _ => return ""
  | none :: _, _ => .malformed .nilItem
  | some i :: rest, depth => do
    let cs ← readComments i.comments
    let above ← leadingComments cs depth
    let text ← i.text depth
    let nl ← newline depth
    let more ← itemLines trailing rest depth
    return above ++ nl ++ text ++ (if trailing || !rest.isEmpty then "," else "") ++ more

/-- The items one per line, a level deeper. -/
def commaSeparatedMultiline (items : List (Option Item)) (trailing : Bool) (depth : Int) :
    Traced String :=
  itemLines trailing items (depth + 1)

/-- The items one per line, a level deeper, and the line break before the closing delimiter. -/
def multilineBlock (items : List (Option Item)) (trailing : Bool) (depth : Int) :
    Traced String := do
  let text ← commaSeparatedMultiline items trailing depth
  let nl ← newline depth
  return text ++ nl

/-- The items on one line unless one of them has a comment. -/
def maybeMultiline (items : List (Option Item)) (trailing : Bool) (depth : Int) :
    Traced String := do
  let commented ← askComments items
  if commented then multilineBlock items trailing depth else commaSeparated items depth

/-- The items one per line with trailing commas, up to the closing delimiter. -/
def split (items : List (Option Item)) (depth : Int) : Traced String :=
  multilineBlock items true depth

/-! ## One line or several -/

/-- How a list between delimiters is laid out. -/
inductive Layout where
  | singleLine | multiLine
  deriving DecidableEq, Repr

/-- The layout with a number: `1` is several lines. -/
def Layout.ofCode (n : Int) : Layout := if n = 1 then .multiLine else .singleLine

/-- The name of a layout. -/
def Layout.name : Layout → String
  | .singleLine => "single-line"
  | .multiLine => "multi-line"

/-- Columns of the pair of delimiters around a list. -/
def delimiters : Int := 2

/-- A sum of columns as a signed word of 64 bits. -/
def wrapColumn (n : Int) : Int := n.bmod 0x10000000000000000

/-- A list between delimiters that start at `column`, followed by `tail` columns, stays on its
line. -/
def fits (column : Int) (list : String) (tail : Int) : Bool :=
  !list.toList.contains '\n' &&
    decide (wrapColumn (column + delimiters + Text.width list + tail) ≤ maxLineWidth)

/-- A list between delimiters that start at `column`: on one line if it has no comments and fits,
else split. -/
def decideLayout (items : List (Option Item)) (column depth : Int) : Traced (String × Layout) :=
  if items.isEmpty then return ("", .singleLine)
  else do
    let commented ← askComments items
    if commented then
      let text ← split items depth
      return (text, .multiLine)
    else
      let single ← commaSeparated items depth
      if fits column single 0 then
        return (single, .singleLine)
      else
        let text ← split items depth
        return (text, .multiLine)

end PhpDecl
