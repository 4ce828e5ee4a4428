import PhpDecl.Printer.Basic
import PhpDecl.Render.Style

/-!
# Lists and bodies on a printer

* `Printer.Item`, `Printer.Member`: elements of lists and bodies, each with its use of the printer;
* `Printer.readComments`, `Printer.askComments`: comments read through pointers that may be null;
* `Printer.commaSeparated`, `Printer.commaSeparatedMultiline`, `Printer.maybeMultiline`,
  `Printer.split`, `Printer.decideLayout`: the ways to write a list;
* `Printer.compactBody`, `Printer.splitBody`: the ways to write a body;
* `Printer.paramList`, `Printer.body`: what a style decides.
-/

namespace PhpDecl.Printer

/-! ## Lists -/

/-- An element of a list. The comments of a null pointer are `none`. -/
structure Item where
  comments : Option (List Comment)
  text : Printer String

/-- Print an item that may be missing. -/
def itemText : Option Item → Printer String
  | none => malformed .nilNode
  | some i => i.text

/-- Print items up to the first that has no text. -/
def itemTexts : List (Option Item) → Printer (List String)
  | [] => return []
  | i :: rest => do
    let s ← itemText i
    let more ← itemTexts rest
    return s :: more

/-- Read the comments of an element, unless it is a null pointer. -/
def readComments (cs : Option (List Comment)) : Printer (List Comment) :=
  lift (PhpDecl.readComments cs)

/-- Some item of the list has a comment. -/
def hasComments (items : List (Option Item)) : Bool :=
  items.any fun
    | some i => i.comments.any fun cs => !cs.isEmpty
    | none => false

/-- Look for an item with a comment: item by item, up to the first that has one. -/
def askComments : List (Option Item) → Printer Bool
  | [] => return false
  | none :: rest => askComments rest
  | some i :: rest => do
    let cs ← readComments i.comments
    if cs.isEmpty then askComments rest else return true

/-- The items on one line. -/
def commaSeparated (items : List (Option Item)) : Printer String := do
  let parts ← itemTexts items
  return ", ".intercalate parts

/-- Comments on lines above an element, nothing when there are none. -/
def leadingComments (cs : List Comment) : Printer String :=
  if cs.isEmpty then return ""
  else do
    let nl ← newline
    let text ← comments cs
    return nl ++ text

/-- One item per line, each below its comments; a comma follows every item, the last one only if
`trailing`. -/
def itemLines (trailing : Bool) : List (Option Item) → Printer String
  | [] => return ""
  | none :: _ => malformed .nilItem
  | some i :: rest => do
    let cs ← readComments i.comments
    let above ← leadingComments cs
    let text ← i.text
    let nl ← newline
    let more ← itemLines trailing rest
    return above ++ nl ++ text ++ (if trailing || !rest.isEmpty then "," else "") ++ more

/-- The items one per line, a level deeper. -/
def commaSeparatedMultiline (items : List (Option Item)) (trailing : Bool) : Printer String :=
  nested (itemLines trailing items)

/-- The items one per line, a level deeper, and the line break before the closing delimiter. -/
def multilineBlock (items : List (Option Item)) (trailing : Bool) : Printer String := do
  let text ← commaSeparatedMultiline items trailing
  let nl ← newline
  return text ++ nl

/-- The items on one line unless one of them has a comment. -/
def maybeMultiline (items : List (Option Item)) (trailing : Bool) : Printer String := do
  let commented ← askComments items
  if commented then multilineBlock items trailing else commaSeparated items

/-- The items one per line with trailing commas, up to the closing delimiter. -/
def split (items : List (Option Item)) : Printer String := multilineBlock items true

/-- A list between delimiters that start at `column`: on one line if it has no comments and fits,
else split. -/
def decideLayout (items : List (Option Item)) (column : Int) : Printer (String × Layout) :=
  if items.isEmpty then return ("", .singleLine)
  else do
    let commented ← askComments items
    if commented then
      let text ← split items
      return (text, .multiLine)
    else
      let single ← commaSeparated items
      if fits column single 0 then
        return (single, .singleLine)
      else
        let text ← split items
        return (text, .multiLine)

/-- The layout that had been chosen for a list when its rendering failed. -/
def layoutAtFailure (items : List (Option Item)) : Layout :=
  if hasComments items then .multiLine else .singleLine

/-! ## Bodies -/

/-- A member of a body. The comments of a null pointer are `none`. -/
structure Member where
  comments : Option (List Comment)
  text : Printer String
  kind : Kind
  isNop : Bool

/-- The members of a body are set apart by blank lines: one of them declares something. -/
def separated (members : List (Option Member)) : Bool :=
  members.any fun
    | some m => m.kind.setsApart
    | none => false

/-- Members one per line, each right below its comments. -/
def compactBody : List (Option Member) → Printer String
  | [] => return ""
  | none :: _ => malformed .nilStatement
  | some m :: rest => do
    let cs ← readComments m.comments
    let above ← leadingComments cs
    if m.isNop && !cs.isEmpty then
      let more ← compactBody rest
      return above ++ more
    else
      let text ← m.text
      let nl ← newline
      let more ← compactBody rest
      return above ++ nl ++ text ++ more

/-- The blocks of a body, one for each member that shows anything. -/
def memberBlocks : List (Option Member) → Printer (List String)
  | [] => return []
  | none :: _ => malformed .nilStatement
  | some m :: rest => do
    let cs ← readComments m.comments
    let above ← leadingComments cs
    if m.isNop then
      let more ← memberBlocks rest
      return if above.isEmpty then more else above :: more
    else
      let text ← m.text
      let nl ← newline
      let more ← memberBlocks rest
      return (above ++ nl ++ text) :: more

/-- Members with one blank line between them, their comments right above them. -/
def splitBody (members : List (Option Member)) : Printer String := do
  let blocks ← memberBlocks members
  return "\n".intercalate blocks

/-! ## Styles -/

/-- The parameters between the parentheses of a declaration: `column` is where `(` starts, `tail`
the columns of the text that follows `)` on its line. -/
def paramList : Style → List (Option Item) → (column tail : Int) → Printer (String × Layout)
  | .standard, params, _, _ => do
    let text ← maybeMultiline params true
    return (text, if hasComments params then .multiLine else .singleLine)
  | .extended _, params, column, tail => do
    let (text, layout) ← decideLayout params column
    if layout = .singleLine && !params.isEmpty && !fits column text tail then
      let text ← split params
      note (.wrapped params.length column)
      return (text, .multiLine)
    else if layout = .multiLine then
      note (.wrapped params.length column)
      return (text, layout)
    else
      return (text, layout)
  | .recorded inner, params, column, tail => do
    note (.askedParams params.length column tail (← depth))
    paramList inner params column tail

/-- The members of a body, each on a new line. -/
def body : Style → List (Option Member) → Printer String
  | .standard, members => compactBody members
  | .extended next, members =>
    if separated members then do
      note (.separated members.length (← depth))
      splitBody members
    else
      body next members
  | .recorded inner, members => do
    note (.askedBody members.length (← depth))
    body inner members

end PhpDecl.Printer
