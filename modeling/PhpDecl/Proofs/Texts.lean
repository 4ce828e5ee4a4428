import PhpDecl.Tree.Node

/-!
# The texts of a tree

The names and string values that a tree holds, comments and the type names of unknown elements left
out: what a printed tree is made of besides fixed words.

* `TypeExpr.texts`, `Expr.texts`, `Arg.texts`, `ArrayItem.texts`: types and expressions;
* `Attribute.texts`, `AttrGroup.texts`, `Param.texts` and the other parts of declarations;
* `Stmt.texts`, `Node.texts`: statements, and any element.
-/

namespace PhpDecl

/-! ## Types and expressions -/

mutual

/-- The names in a type. -/
def TypeExpr.texts : TypeExpr → List String
  | .named _ name => [name]
  | .nullable _ inner => TypeExpr.optTexts inner
  | .union _ parts => TypeExpr.listTexts parts
  | .foreign _ _ => []

/-- The names in a type that may be missing. -/
def TypeExpr.optTexts : Option TypeExpr → List String
  | none => []
  | some t => t.texts

/-- The names in the parts of a union. -/
def TypeExpr.listTexts : List (Option TypeExpr) → List String
  | [] => []
  | t :: rest => TypeExpr.optTexts t ++ TypeExpr.listTexts rest

end

mutual

/-- The names and string values in an expression. -/
def Expr.texts : Expr → List String
  | .variable _ name => [name]
  | .string _ value => [value]
  | .integer _ _ => []
  | .constant _ name => [name]
  | .call _ name args => name :: Arg.listTexts args
  | .methodCall _ target name args => Expr.optTexts target ++ name :: Arg.listTexts args
  | .fetch _ target name => Expr.optTexts target ++ [name]
  | .assign _ target value => Expr.optTexts target ++ Expr.optTexts value
  | .array _ items => ArrayItem.listTexts items
  | .foreign _ _ => []

/-- The names and string values in an expression that may be missing. -/
def Expr.optTexts : Option Expr → List String
  | none => []
  | some e => e.texts

/-- The names and string values in an argument. -/
def Arg.texts : Arg → List String
  | .mk _ value _ => Expr.optTexts value

/-- The names and string values in arguments. -/
def Arg.listTexts : List Arg → List String
  | [] => []
  | a :: rest => a.texts ++ Arg.listTexts rest

/-- The names and string values in an array element. -/
def ArrayItem.texts : ArrayItem → List String
  | .mk _ key value => Expr.optTexts key ++ Expr.optTexts value

/-- The names and string values in array elements. -/
def ArrayItem.listTexts : List ArrayItem → List String
  | [] => []
  | i :: rest => i.texts ++ ArrayItem.listTexts rest

end

/-! ## Parts of declarations -/

/-- The names and string values in an attribute. -/
def Attribute.texts (a : Attribute) : List String := a.name :: Arg.listTexts a.args

/-- The names and string values in an attribute group. -/
def AttrGroup.texts (g : AttrGroup) : List String := g.attrs.flatMap Attribute.texts

/-- The names and string values in a parameter. -/
def Param.texts (p : Param) : List String :=
  p.name :: TypeExpr.optTexts p.type ++ Expr.optTexts p.default ++
    p.attrGroups.flatMap AttrGroup.texts

/-- The names and string values in a field. -/
def PropertyItem.texts (p : PropertyItem) : List String := p.name :: Expr.optTexts p.default

/-- The names and string values in a constant. -/
def ConstItem.texts (c : ConstItem) : List String := c.name :: Expr.optTexts c.value

/-- The names and string values in a property declaration. -/
def Property.texts (p : Property) : List String :=
  TypeExpr.optTexts p.type ++ p.items.flatMap PropertyItem.texts ++
    p.attrGroups.flatMap AttrGroup.texts

/-- The names and string values in a constant declaration. -/
def Constants.texts (c : Constants) : List String :=
  c.items.flatMap ConstItem.texts ++ c.attrGroups.flatMap AttrGroup.texts

/-- The names and string values in the head of a class. -/
def ClassHead.texts (h : ClassHead) : List String :=
  h.name :: h.parent :: h.implements ++ h.attrGroups.flatMap AttrGroup.texts

/-- The names and string values in the head of a method. -/
def MethodHead.texts (h : MethodHead) : List String :=
  h.name :: h.params.flatMap Param.texts ++ TypeExpr.optTexts h.returns ++
    h.attrGroups.flatMap AttrGroup.texts

/-- The names and string values in the head of a function. -/
def FunctionHead.texts (h : FunctionHead) : List String :=
  h.name :: h.params.flatMap Param.texts ++ TypeExpr.optTexts h.returns ++
    h.attrGroups.flatMap AttrGroup.texts

/-- The names and string values in the head of a loop. -/
def ForHead.texts (h : ForHead) : List String :=
  h.init.flatMap Expr.optTexts ++ h.cond.flatMap Expr.optTexts ++ h.loop.flatMap Expr.optTexts

/-! ## Statements and elements -/

mutual

/-- The names and string values in a statement. -/
def Stmt.texts : Stmt → List String
  | .classDecl head members => head.texts ++ Stmt.listTexts members
  | .method head none => head.texts
  | .method head (some body) => head.texts ++ Stmt.listTexts body
  | .function head body => head.texts ++ Stmt.listTexts body
  | .property decl => decl.texts
  | .constants decl => decl.texts
  | .traitUse decl => decl.traits
  | .expression _ expr => Expr.optTexts expr
  | .ret _ expr => Expr.optTexts expr
  | .forLoop head body => head.texts ++ Stmt.listTexts body
  | .nop _ => []
  | .foreign _ _ _ => []

/-- The names and string values in the statements of a body. -/
def Stmt.listTexts : List (Option Stmt) → List String
  | [] => []
  | s :: rest => Stmt.optTexts s ++ Stmt.listTexts rest

/-- The names and string values in a statement that may be missing. -/
def Stmt.optTexts : Option Stmt → List String
  | none => []
  | some s => s.texts

end

/-- The names and string values in an element. -/
def Node.texts : Node → List String
  | .stmt s => s.texts
  | .expr e => e.texts
  | .type t => t.texts
  | .param p => p.texts
  | .propertyItem p => p.texts
  | .constItem c => c.texts
  | .attrGroup g => g.texts
  | .attribute a => a.texts
  | .arg a => a.texts
  | .arrayItem i => i.texts
  | .null _ => []
  | .foreign _ _ => []

end PhpDecl
