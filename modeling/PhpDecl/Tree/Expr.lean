import PhpDecl.Tree.Comment

/-!
# Expressions

* `Expr`, `Arg`, `ArrayItem`: expressions with their call arguments and array elements; a part
  that the tree leaves out is `none`;
* `Arg.ofValues`: plain arguments from values.
-/

namespace PhpDecl

mutual

/-- An expression. -/
inductive Expr where
  | variable (comments : List Comment) (name : String)
  | string (comments : List Comment) (value : String)
  | integer (comments : List Comment) (value : Int)
  | constant (comments : List Comment) (name : String)
  | call (comments : List Comment) (name : String) (args : List Arg)
  | methodCall (comments : List Comment) (target : Option Expr) (name : String) (args : List Arg)
  | fetch (comments : List Comment) (target : Option Expr) (name : String)
  | assign (comments : List Comment) (target value : Option Expr)
  | array (comments : List Comment) (items : List ArrayItem)
  /-- An expression this library does not know. -/
  | foreign (comments : List Comment) (typeName : String)

/-- An argument of a call or of an attribute. -/
inductive Arg where
  | mk (comments : List Comment) (value : Option Expr) (unpack : Bool)

/-- An element of an array; an element without a key has `none`. -/
inductive ArrayItem where
  | mk (comments : List Comment) (key value : Option Expr)

end

/-- The comments in front of an expression. -/
def Expr.comments : Expr → List Comment
  | .variable cs _ | .string cs _ | .integer cs _ | .constant cs _ | .call cs _ _
  | .methodCall cs _ _ _ | .fetch cs _ _ | .assign cs _ _ | .array cs _ | .foreign cs _ => cs

/-- The comments in front of an argument. -/
def Arg.comments : Arg → List Comment
  | .mk cs _ _ => cs

/-- The comments in front of an array element. -/
def ArrayItem.comments : ArrayItem → List Comment
  | .mk cs _ _ => cs

/-- Plain arguments with the given values. -/
def Arg.ofValues (values : List (Option Expr)) : List Arg := values.map fun v => .mk [] v false

end PhpDecl
