import PhpDecl.Render.Item
import PhpDecl.Text.Literal
import PhpDecl.Tree.Expr

/-!
# Expressions as text

* `Expr.render`: the text of an expression at a depth, which matters only where a list is split;
* `exprText`: the text of an expression that may be missing;
* `argText`, `arrayItemText`, `argItems`, `arrayItems`: arguments and array elements;
* `exprItems`: expressions as items of a list.
-/

namespace PhpDecl

mutual

/-- The text of an expression. -/
def Expr.render : Expr → Int → Traced String
  | .variable _ name, _ => return "$" ++ name
  | .string _ value, _ => return Text.literal value
  | .integer _ value, _ => return value.repr
  | .constant _ name, _ => return name
  | .call _ name args, depth => do
    let list ← maybeMultiline (argItems args) false depth
    return name ++ "(" ++ list ++ ")"
  | .methodCall _ target name args, depth => do
    let object ← exprText target depth
    let list ← maybeMultiline (argItems args) false depth
    return object ++ "->" ++ name ++ "(" ++ list ++ ")"
  | .fetch _ target name, depth => do
    let object ← exprText target depth
    return object ++ "->" ++ name
  | .assign _ target value, depth => do
    let left ← exprText target depth
    let right ← exprText value depth
    return left ++ " = " ++ right
  | .array _ items, depth => do
    let list ← maybeMultiline (arrayItems items) true depth
    return "[" ++ list ++ "]"
  | .foreign _ typeName, _ => .malformed (.unsupportedExpression typeName)

/-- The text of an expression that may be missing. -/
def exprText : Option Expr → Int → Traced String
  | none, _ => .malformed .nilExpression
  | some e, depth => e.render depth

/-- The text of an argument. -/
def argText : Arg → Int → Traced String
  | .mk _ value unpack, depth => do
    let text ← exprText value depth
    return if unpack then "..." ++ text else text

/-- The text of an array element: its value is rendered before its key. -/
def arrayItemText : ArrayItem → Int → Traced String
  | .mk _ key value, depth => do
    let text ← exprText value depth
    let before ← keyText key depth
    return before ++ text

/-- The key of an array element and the arrow after it. -/
def keyText : Option Expr → Int → Traced String
  | none, _ => return ""
  | some key, depth => do
    let text ← key.render depth
    return text ++ " => "

/-- Arguments as items of a list. -/
def argItems : List Arg → List (Option Item)
  | [] => []
  | a :: rest => some ⟨some a.comments, argText a⟩ :: argItems rest

/-- Array elements as items of a list. -/
def arrayItems : List ArrayItem → List (Option Item)
  | [] => []
  | i :: rest => some ⟨some i.comments, arrayItemText i⟩ :: arrayItems rest

end

/-- Expressions as items of a list. -/
def exprItems (es : List (Option Expr)) : List (Option Item) :=
  es.map (·.map fun e => ⟨some e.comments, e.render⟩)

end PhpDecl
