import PhpDecl.Render.Item
import PhpDecl.Tree.Stmt

/-!
# Bodies

A member of a body is an item with a kind. Bodies are written compactly, or with a blank line
between members.

* `Member`: an item in a body;
* `separated`: some member is of a kind that is set apart;
* `compactBody`, `splitBody`: the two ways to write a body.
-/

namespace PhpDecl

/-- A member of a body. The comments of a null pointer are `none`. -/
structure Member where
  comments : Option (List Comment)
  text : Int → Traced String
  kind : Kind
  isNop : Bool

/-- The members of a body are set apart by blank lines: one of them declares something. -/
def separated (members : List (Option Member)) : Bool :=
  members.any fun
    | some m => m.kind.setsApart
    | none => false

/-- Members one per line, each right below its comments. -/
def compactBody : List (Option Member) → Int → Traced String
  | [], _ => return ""
  | none :: _, _ => .malformed .nilStatement
  | some m :: rest, depth => do
    let cs ← readComments m.comments
    let above ← leadingComments cs depth
    if m.isNop && !cs.isEmpty then
      let more ← compactBody rest depth
      return above ++ more
    else
      let text ← m.text depth
      let nl ← newline depth
      let more ← compactBody rest depth
      return above ++ nl ++ text ++ more

/-- The blocks of a body, one for each member that shows anything. -/
def memberBlocks : List (Option Member) → Int → Traced (List String)
  | [], _ => return []
  | none :: _, _ => .malformed .nilStatement
  | some m :: rest, depth => do
    let cs ← readComments m.comments
    let above ← leadingComments cs depth
    if m.isNop then
      let more ← memberBlocks rest depth
      return if above.isEmpty then more else above :: more
    else
      let text ← m.text depth
      let nl ← newline depth
      let more ← memberBlocks rest depth
      return (above ++ nl ++ text) :: more

/-- Members with one blank line between them, their comments right above them. -/
def splitBody (members : List (Option Member)) (depth : Int) : Traced String := do
  let blocks ← memberBlocks members depth
  return "\n".intercalate blocks

end PhpDecl
