import PhpDecl.Render.Declaration
import PhpDecl.Tree.Node

/-!
# Any element as text

* `NodeType.nullText`, `Node.render`, `nodeText`: the text of an element, which may be missing;
* `nodeItems`, `pointerMembers`: elements as items of a list, statements as members of a body;
* `fromMargin`, `prettyPrint`: a list of statements from the left margin.
-/

namespace PhpDecl

/-- The text of a null pointer. A class is checked before it is read; a statement without code and
bare comments are not read at all. -/
def NodeType.nullText : NodeType → Traced String
  | .stmt .classDecl => .malformed .nilClass
  | .stmt .nop => return ""
  | .bare => .malformed (.unsupportedNode "*codeprint.Meta")
  | _ => .fail .nullPointer

/-- The text of an element. -/
def Node.render (style : Style) : Node → Int → Traced String
  | .stmt s, depth => s.render style depth
  | .expr e, depth => e.render depth
  | .type t, _ => .ofExcept t.text
  | .param p, depth => paramText p depth
  | .propertyItem p, depth => propertyItemText p depth
  | .constItem c, depth => constItemText c depth
  | .attrGroup g, depth => attrGroupText g depth
  | .attribute a, depth => attributeText a depth
  | .arg a, depth => argText a depth
  | .arrayItem i, depth => arrayItemText i depth
  | .null t, _ => t.nullText
  | .foreign _ typeName, _ => .malformed (.unsupportedNode typeName)

/-- The text of an element that may be missing. -/
def nodeText (style : Style) : Option Node → Int → Traced String
  | none, _ => .malformed .nilNode
  | some n, depth => n.render style depth

/-- Elements as items of a list. -/
def nodeItems (style : Style) (nodes : List (Option Node)) : List (Option Item) :=
  nodes.map (·.map fun n => ⟨n.comments, n.render style⟩)

/-- A statement that is handed over, as a member of a body. -/
def StmtPointer.member (style : Style) : StmtPointer → Member
  | .stmt s => ⟨some s.comments, s.render style, s.kind, s.isNop⟩
  | .null t => ⟨none, fun _ => (NodeType.stmt t).nullText, t.kind, t = .nop⟩

/-- Statements that are handed over, as the members of a body. -/
def pointerMembers (style : Style) (stmts : List (Option StmtPointer)) : List (Option Member) :=
  stmts.map (·.map (StmtPointer.member style))

/-- White space dropped from the start of a printed list of statements. -/
def isMargin (c : Char) : Bool := c = ' ' || c = '\t' || c = '\r' || c = '\n'

/-- A body from the left margin, without white space in front. -/
def fromMargin (style : Style) (ms : List (Option Member)) : Traced String := do
  let text ← style.body ms 0
  return String.ofList (text.toList.dropWhile isMargin)

/-- A list of statements from the left margin. -/
def prettyPrint (style : Style) (stmts : List (Option Stmt)) : Traced String :=
  fromMargin style (members style stmts)

end PhpDecl
