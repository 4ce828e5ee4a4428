import PhpDecl.Tree.Node

/-!
# Well-formed trees

A tree is well formed when nothing is missing in it that a printed declaration needs. What may be
missing: the expression of a return, the default of a parameter or a field, the key of an array
element, the type of a parameter or a field, a return type and the body of a method.

* `TypeExpr.wellFormed`, `Expr.wellFormed` with `present` (there and well formed) and `allowed`
  (missing or well formed);
* `Attribute.wellFormed`, `Param.wellFormed` and the other parts of declarations;
* `Stmt.wellFormed`, `Stmt.allWellFormed`, `Node.wellFormed`: statements, bodies and any element;
* `NodeType.isRead`, `Node.isBroken`: null pointers that cannot be rendered.
-/

namespace PhpDecl

/-! ## Types and expressions -/

mutual

/-- No part of the type is missing or unknown. -/
def TypeExpr.wellFormed : TypeExpr → Bool
  | .named _ _ => true
  | .nullable _ inner => TypeExpr.present inner
  | .union _ parts => TypeExpr.allPresent parts
  | .foreign _ _ => false

/-- The type is there and well formed. -/
def TypeExpr.present : Option TypeExpr → Bool
  | none => false
  | some t => t.wellFormed

/-- All parts of a union are there and well formed. -/
def TypeExpr.allPresent : List (Option TypeExpr) → Bool
  | [] => true
  | t :: rest => TypeExpr.present t && TypeExpr.allPresent rest

end

/-- The type is missing or well formed. -/
def TypeExpr.allowed : Option TypeExpr → Bool
  | none => true
  | some t => t.wellFormed

mutual

/-- No part of the expression is missing or unknown. -/
def Expr.wellFormed : Expr → Bool
  | .variable _ _ | .string _ _ | .integer _ _ | .constant _ _ => true
  | .call _ _ args => Arg.allWellFormed args
  | .methodCall _ target _ args => Expr.present target && Arg.allWellFormed args
  | .fetch _ target _ => Expr.present target
  | .assign _ target value => Expr.present target && Expr.present value
  | .array _ items => ArrayItem.allWellFormed items
  | .foreign _ _ => false

/-- The expression is there and well formed. -/
def Expr.present : Option Expr → Bool
  | none => false
  | some e => e.wellFormed

/-- The expression is missing or well formed. -/
def Expr.allowed : Option Expr → Bool
  | none => true
  | some e => e.wellFormed

/-- The argument has a well-formed value. -/
def Arg.wellFormed : Arg → Bool
  | .mk _ value _ => Expr.present value

/-- All arguments have well-formed values. -/
def Arg.allWellFormed : List Arg → Bool
  | [] => true
  | a :: rest => a.wellFormed && Arg.allWellFormed rest

/-- The array element has a well-formed value, and a well-formed key if it has one. -/
def ArrayItem.wellFormed : ArrayItem → Bool
  | .mk _ key value => Expr.allowed key && Expr.present value

/-- All array elements are well formed. -/
def ArrayItem.allWellFormed : List ArrayItem → Bool
  | [] => true
  | i :: rest => i.wellFormed && ArrayItem.allWellFormed rest

end

/-! ## Parts of declarations -/

/-- The arguments of the attribute are well formed. -/
def Attribute.wellFormed (a : Attribute) : Bool := Arg.allWellFormed a.args

/-- The attributes of the group are well formed. -/
def AttrGroup.wellFormed (g : AttrGroup) : Bool := g.attrs.all Attribute.wellFormed

/-- The parameter has a name and well-formed parts. -/
def Param.wellFormed (p : Param) : Bool :=
  p.name ≠ "" && p.attrGroups.all AttrGroup.wellFormed && TypeExpr.allowed p.type &&
    Expr.allowed p.default

/-- The default of the field, if it has one, is well formed. -/
def PropertyItem.wellFormed (p : PropertyItem) : Bool := Expr.allowed p.default

/-- The constant has a well-formed value. -/
def ConstItem.wellFormed (c : ConstItem) : Bool := Expr.present c.value

/-- The declaration has fields, and its parts are well formed. -/
def Property.wellFormed (p : Property) : Bool :=
  !p.items.isEmpty && p.attrGroups.all AttrGroup.wellFormed && TypeExpr.allowed p.type &&
    p.items.all PropertyItem.wellFormed

/-- The declaration has constants, and its parts are well formed. -/
def Constants.wellFormed (c : Constants) : Bool :=
  !c.items.isEmpty && c.attrGroups.all AttrGroup.wellFormed && c.items.all ConstItem.wellFormed

/-- The method has a name, and the parts in front of its body are well formed. -/
def MethodHead.wellFormed (h : MethodHead) : Bool :=
  h.name ≠ "" && h.attrGroups.all AttrGroup.wellFormed && TypeExpr.allowed h.returns &&
    h.params.all Param.wellFormed

/-- The function has a name, and the parts in front of its body are well formed. -/
def FunctionHead.wellFormed (h : FunctionHead) : Bool :=
  h.name ≠ "" && h.attrGroups.all AttrGroup.wellFormed && TypeExpr.allowed h.returns &&
    h.params.all Param.wellFormed

/-- No expression of the loop is missing or malformed. -/
def ForHead.wellFormed (h : ForHead) : Bool :=
  h.init.all Expr.present && h.cond.all Expr.present && h.loop.all Expr.present

/-! ## Statements and elements -/

mutual

/-- Nothing that the statement needs is missing in it, and nothing in it is unknown. -/
def Stmt.wellFormed : Stmt → Bool
  | .classDecl head members =>
    head.attrGroups.all AttrGroup.wellFormed && Stmt.allWellFormed members
  | .method head none => head.wellFormed
  | .method head (some body) => head.wellFormed && Stmt.allWellFormed body
  | .function head body => head.wellFormed && Stmt.allWellFormed body
  | .property decl => decl.wellFormed
  | .constants decl => decl.wellFormed
  | .traitUse decl => !decl.traits.isEmpty
  | .expression _ expr => Expr.present expr
  | .ret _ expr => Expr.allowed expr
  | .forLoop head body => head.wellFormed && Stmt.allWellFormed body
  | .nop _ => true
  | .foreign _ _ _ => false

/-- No statement of the body is missing or malformed. -/
def Stmt.allWellFormed : List (Option Stmt) → Bool
  | [] => true
  | s :: rest => Stmt.present s && Stmt.allWellFormed rest

/-- The statement is there and well formed. -/
def Stmt.present : Option Stmt → Bool
  | none => false
  | some s => s.wellFormed

end

/-- The element is well formed. -/
def Node.wellFormed : Node → Bool
  | .stmt s => s.wellFormed
  | .expr e => e.wellFormed
  | .type t => t.wellFormed
  | .param p => p.wellFormed
  | .propertyItem p => p.wellFormed
  | .constItem c => c.wellFormed
  | .attrGroup g => g.wellFormed
  | .attribute a => a.wellFormed
  | .arg a => a.wellFormed
  | .arrayItem i => i.wellFormed
  | .null _ => false
  | .foreign _ _ => false

/-- The element is there and well formed. -/
def Node.present : Option Node → Bool
  | none => false
  | some n => n.wellFormed

/-! ## Null pointers -/

/-- To render an element of the type is to read it. A class is checked first; a statement without
code and bare comments are never read. -/
def NodeType.isRead : NodeType → Bool
  | .stmt .classDecl | .stmt .nop | .bare => false
  | _ => true

/-- The element is a null pointer that is read when it is rendered. -/
def Node.isBroken : Option Node → Bool
  | some (.null t) => t.isRead
  | _ => false

end PhpDecl
