import PhpDecl.Modifier
import PhpDecl.Tree.Expr
import PhpDecl.Tree.Type

/-!
# Declarations and statements

A declaration with a body is a head, which holds everything in front of the body, and the
statements of the body. A missing statement is `none`.

* `Kind`: what a statement is for the grouping of class members;
* `Attribute`, `AttrGroup`, `Param`: parts of declaration heads;
* `ClassHead`, `MethodHead`, `FunctionHead`, `Property`, `Constants`, `TraitUse`, `ForHead`;
* `Stmt`, with `Stmt.comments`, `Stmt.kind` and `Stmt.isNop`.
-/

namespace PhpDecl

/-- What a statement is for the grouping of class members. Five kinds have names. -/
structure Kind where
  code : Int
  deriving DecidableEq, Repr

namespace Kind

/-- Anything that is not a class member of its own kind. -/
def other : Kind := ⟨0⟩
/-- Imported traits. -/
def traitUse : Kind := ⟨1⟩
/-- Class constants. -/
def constant : Kind := ⟨2⟩
/-- Class fields. -/
def property : Kind := ⟨3⟩
/-- Methods. -/
def method : Kind := ⟨4⟩

/-- The name of a kind. -/
def name (k : Kind) : String :=
  if k = other then "other"
  else if k = traitUse then "trait-use"
  else if k = constant then "const"
  else if k = property then "property"
  else if k = method then "method"
  else "Kind(" ++ k.code.repr ++ ")"

/-- A member of this kind is set apart from its neighbours by blank lines. -/
def setsApart (k : Kind) : Bool := k = traitUse || k = constant || k = property || k = method

end Kind

/-! ## Parts of declarations -/

/-- One attribute. -/
structure Attribute where
  comments : List Comment := []
  name : String
  args : List Arg := []

/-- Attributes between one pair of brackets. -/
structure AttrGroup where
  comments : List Comment := []
  attrs : List Attribute := []

/-- A group of one attribute. -/
def AttrGroup.single (name : String) (args : List Arg := []) : AttrGroup :=
  { attrs := [{ name, args }] }

/-- A parameter of a method or a function. -/
structure Param where
  comments : List Comment := []
  name : String
  type : Option TypeExpr := none
  flags : Modifiers := .empty
  byRef : Bool := false
  variadic : Bool := false
  default : Option Expr := none
  attrGroups : List AttrGroup := []

/-- One field of a property declaration. -/
structure PropertyItem where
  comments : List Comment := []
  name : String
  default : Option Expr := none

/-- One name and value of a constant declaration. -/
structure ConstItem where
  comments : List Comment := []
  name : String
  value : Option Expr := none

/-! ## Heads and declarations without a body -/

/-- A class up to its body. -/
structure ClassHead where
  comments : List Comment := []
  name : String
  flags : Modifiers := .empty
  parent : String := ""
  implements : List String := []
  attrGroups : List AttrGroup := []

/-- A method up to its body. -/
structure MethodHead where
  comments : List Comment := []
  name : String
  flags : Modifiers := .empty
  byRef : Bool := false
  params : List Param := []
  returns : Option TypeExpr := none
  attrGroups : List AttrGroup := []

/-- A free function up to its body. -/
structure FunctionHead where
  comments : List Comment := []
  name : String
  byRef : Bool := false
  params : List Param := []
  returns : Option TypeExpr := none
  attrGroups : List AttrGroup := []

/-- Fields declared together. -/
structure Property where
  comments : List Comment := []
  flags : Modifiers := .empty
  type : Option TypeExpr := none
  items : List PropertyItem := []
  attrGroups : List AttrGroup := []

/-- Class constants declared together. -/
structure Constants where
  comments : List Comment := []
  flags : Modifiers := .empty
  items : List ConstItem := []
  attrGroups : List AttrGroup := []

/-- Traits imported into a class. -/
structure TraitUse where
  comments : List Comment := []
  traits : List String := []

/-- A loop up to its body. -/
structure ForHead where
  comments : List Comment := []
  init : List (Option Expr) := []
  cond : List (Option Expr) := []
  loop : List (Option Expr) := []

/-! ## Statements -/

/-- A statement or a class member. A method without a body is only declared. -/
inductive Stmt where
  | classDecl (head : ClassHead) (members : List (Option Stmt))
  | method (head : MethodHead) (body : Option (List (Option Stmt)))
  | function (head : FunctionHead) (body : List (Option Stmt))
  | property (decl : Property)
  | constants (decl : Constants)
  | traitUse (decl : TraitUse)
  | expression (comments : List Comment) (expr : Option Expr)
  | ret (comments : List Comment) (expr : Option Expr)
  | forLoop (head : ForHead) (body : List (Option Stmt))
  /-- No code of its own, only comments. -/
  | nop (comments : List Comment)
  /-- A statement this library does not know. -/
  | foreign (comments : List Comment) (kind : Kind) (typeName : String)

namespace Stmt

/-- The comments in front of a statement. -/
def comments : Stmt → List Comment
  | .classDecl head _ => head.comments
  | .method head _ => head.comments
  | .function head _ => head.comments
  | .property decl => decl.comments
  | .constants decl => decl.comments
  | .traitUse decl => decl.comments
  | .expression cs _ | .ret cs _ | .nop cs | .foreign cs _ _ => cs
  | .forLoop head _ => head.comments

/-- The kind of a statement. -/
def kind : Stmt → Kind
  | .method _ _ => .method
  | .property _ => .property
  | .constants _ => .constant
  | .traitUse _ => .traitUse
  | .foreign _ k _ => k
  | _ => .other

/-- The statement only carries comments. -/
def isNop : Stmt → Bool
  | .nop _ => true
  | _ => false

end Stmt

/-- A class as a value of its own. -/
structure ClassDecl where
  head : ClassHead
  members : List (Option Stmt) := []

/-- The class as a statement. -/
def ClassDecl.toStmt (c : ClassDecl) : Stmt := .classDecl c.head c.members

end PhpDecl
