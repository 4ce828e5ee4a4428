import PhpDecl.Tree.Stmt

/-!
# Elements of a tree

An element is reached through a pointer. The elements in a tree are there or left out; those that
are handed over one by one or in a list may also be null pointers, which have a type and nothing
else.

* `StmtType`, `NodeType`: the types of pointers;
* `Node`: any element that can be rendered by itself or stand in a list of mixed elements;
* `Node.comments`, `Node.kind?`: what is asked of an element;
* `StmtPointer`: a statement that is handed over in a list.
-/

namespace PhpDecl

/-! ## Types of pointers -/

/-- A type of statements. -/
inductive StmtType where
  | classDecl | method | function | property | constants | traitUse | expression | ret | forLoop
  | nop
  deriving DecidableEq, Repr

/-- The kind of the statements of a type. -/
def StmtType.kind : StmtType → Kind
  | .method => .method
  | .property => .property
  | .constants => .constant
  | .traitUse => .traitUse
  | _ => .other

/-- A type of elements. -/
inductive NodeType where
  | stmt (type : StmtType)
  | variable | string | integer | constant | call | methodCall | fetch | assign | array
  | named | nullable | union
  | param | propertyItem | constItem | attrGroup | attribute | arg | arrayItem
  /-- Comments that belong to no element. -/
  | bare
  deriving DecidableEq, Repr

/-! ## Elements -/

/-- Any element of a tree. -/
inductive Node where
  | stmt (s : Stmt)
  | expr (e : Expr)
  | type (t : TypeExpr)
  | param (p : Param)
  | propertyItem (p : PropertyItem)
  | constItem (c : ConstItem)
  | attrGroup (g : AttrGroup)
  | attribute (a : Attribute)
  | arg (a : Arg)
  | arrayItem (i : ArrayItem)
  /-- A null pointer: an element that was announced and never built. -/
  | null (type : NodeType)
  /-- An element this library does not know. -/
  | foreign (comments : List Comment) (typeName : String)

namespace Node

/-- The comments in front of an element. They cannot be read through a null pointer. -/
def comments : Node → Option (List Comment)
  | .stmt s => some s.comments
  | .expr e => some e.comments
  | .type t => some t.comments
  | .param p => some p.comments
  | .propertyItem p => some p.comments
  | .constItem c => some c.comments
  | .attrGroup g => some g.comments
  | .attribute a => some a.comments
  | .arg a => some a.comments
  | .arrayItem i => some i.comments
  | .null _ => none
  | .foreign cs _ => some cs

/-- The kind of an element that can stand in a body; the type of a pointer tells it. -/
def kind? : Node → Option Kind
  | .stmt s => some s.kind
  | .null (.stmt t) => some t.kind
  | _ => none

end Node

/-- A statement that is handed over in a list, by a pointer that may be null. -/
inductive StmtPointer where
  | stmt (s : Stmt)
  | null (type : StmtType)

end PhpDecl
