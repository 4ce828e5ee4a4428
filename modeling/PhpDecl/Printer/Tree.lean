import PhpDecl.Printer.List
import PhpDecl.Render.Node

/-!
# Trees on a printer

* `Printer.expr`, `Printer.param`, `Printer.property` and their companions: expressions and the
  parts of declarations;
* `Printer.stmt`, `Printer.node`: statements, and any element;
* `Printer.prettyPrint`: a list of statements from the left margin, which is where the printer is
  left.
-/

namespace PhpDecl.Printer

/-! ## Expressions -/

mutual

/-- Print an expression. -/
def expr : Expr → Printer String
  | .variable _ name => return "$" ++ name
  | .string _ value => return Text.literal value
  | .integer _ value => return value.repr
  | .constant _ name => return name
  | .call _ name args => do
    let list ← maybeMultiline (argItems args) false
    return name ++ "(" ++ list ++ ")"
  | .methodCall _ target name args => do
    let object ← optExpr target
    let list ← maybeMultiline (argItems args) false
    return object ++ "->" ++ name ++ "(" ++ list ++ ")"
  | .fetch _ target name => do
    let object ← optExpr target
    return object ++ "->" ++ name
  | .assign _ target value => do
    let left ← optExpr target
    let right ← optExpr value
    return left ++ " = " ++ right
  | .array _ items => do
    let list ← maybeMultiline (arrayItems items) true
    return "[" ++ list ++ "]"
  | .foreign _ typeName => malformed (.unsupportedExpression typeName)

/-- Print an expression that may be missing. -/
def optExpr : Option Expr → Printer String
  | none => malformed .nilExpression
  | some e => expr e

/-- Print an argument. -/
def arg : Arg → Printer String
  | .mk _ value unpack => do
    let text ← optExpr value
    return if unpack then "..." ++ text else text

/-- Print an array element: its value before its key. -/
def arrayItem : ArrayItem → Printer String
  | .mk _ key value => do
    let text ← optExpr value
    let before ← arrayKey key
    return before ++ text

/-- Print the key of an array element and the arrow after it. -/
def arrayKey : Option Expr → Printer String
  | none => return ""
  | some key => do
    let text ← expr key
    return text ++ " => "

/-- Arguments as items of a list. -/
def argItems : List Arg → List (Option Item)
  | [] => []
  | a :: rest => some ⟨some a.comments, arg a⟩ :: argItems rest

/-- Array elements as items of a list. -/
def arrayItems : List ArrayItem → List (Option Item)
  | [] => []
  | i :: rest => some ⟨some i.comments, arrayItem i⟩ :: arrayItems rest

end

/-- Expressions as items of a list. -/
def exprItems (es : List (Option Expr)) : List (Option Item) :=
  es.map (·.map fun e => ⟨some e.comments, expr e⟩)

/-! ## Parts of declarations -/

/-- Print an attribute. -/
def attr (a : Attribute) : Printer String :=
  if a.args.isEmpty then return a.name
  else do
    let args ← maybeMultiline (argItems a.args) true
    return a.name ++ "(" ++ args ++ ")"

/-- Print an attribute group. -/
def attrGroup (g : AttrGroup) : Printer String := do
  let attrs ← commaSeparated (g.attrs.map fun a => some ⟨some a.comments, attr a⟩)
  return "#[" ++ attrs ++ "]"

/-- Print attribute groups, each on a line of its own in front of a declaration. -/
def attrLines : List AttrGroup → Printer String
  | [] => return ""
  | g :: rest => do
    let text ← attrGroup g
    let nl ← newline
    let more ← attrLines rest
    return text ++ nl ++ more

/-- Print attribute groups in front of a parameter, on its line. -/
def inlineAttrs : List AttrGroup → Printer String
  | [] => return ""
  | g :: rest => do
    let text ← attrGroup g
    let more ← inlineAttrs rest
    return text ++ " " ++ more

/-- Print a default value after a name. -/
def defaultAfter : Option Expr → Printer String
  | none => return ""
  | some e => do
    let text ← expr e
    return " = " ++ text

/-- Print a parameter. -/
def param (p : Param) : Printer String :=
  if p.name = "" then malformed .parameterWithoutName
  else do
    let attrs ← inlineAttrs p.attrGroups
    let type ← lift (typeBefore p.type)
    let default ← defaultAfter p.default
    return attrs ++ p.flags.text ++ type ++ refMark p.byRef ++
      (if p.variadic then "..." else "") ++ "$" ++ p.name ++ default

/-- Parameters as items of a list. -/
def paramItems (params : List Param) : List (Option Item) :=
  params.map fun p => some ⟨some p.comments, param p⟩

/-- Print a field. -/
def propertyItem (p : PropertyItem) : Printer String := do
  let default ← defaultAfter p.default
  return "$" ++ p.name ++ default

/-- Print a constant. -/
def constItem (c : ConstItem) : Printer String :=
  match c.value with
  | none => malformed (.constWithoutValue c.name)
  | some e => do
    let text ← expr e
    return c.name ++ " = " ++ text

/-! ## Declarations -/

/-- Print a property declaration. -/
def property (p : Property) : Printer String :=
  if p.items.isEmpty then malformed .propertyWithoutItems
  else do
    let attrs ← attrLines p.attrGroups
    let type ← lift (typeBefore p.type)
    let items ← commaSeparated (p.items.map fun i => some ⟨some i.comments, propertyItem i⟩)
    return attrs ++ (if p.flags.text = "" then "var " else p.flags.text) ++ type ++ items ++ ";"

/-- Print a constant declaration. -/
def constants (c : Constants) : Printer String :=
  if c.items.isEmpty then malformed .constWithoutItems
  else do
    let attrs ← attrLines c.attrGroups
    let items ← commaSeparated (c.items.map fun i => some ⟨some i.comments, constItem i⟩)
    return attrs ++ c.flags.text ++ "const " ++ items ++ ";"

/-- Print `lead`, the parameters in parentheses and the return type; the layout is that of the
parameters. -/
def signature (style : Style) (lead : String) (params : List Param)
    (returns : Option TypeExpr) : Printer (String × Layout) := do
  let ret ← lift (returnAfter returns)
  let (list, layout) ← paramList style (paramItems params) (← column lead) (Text.width ret)
  return (lead ++ "(" ++ list ++ ")" ++ ret, layout)

/-! ## Statements -/

mutual

/-- Print a statement. -/
def stmt (style : Style) : Stmt → Printer String
  | .classDecl head stmts => do
    let attrs ← attrLines head.attrGroups
    let inner ← (nested (body style (members style stmts))).within (.inClass head.name)
    let nl ← newline
    return attrs ++ head.text ++ nl ++ "\x7b" ++ inner ++ nl ++ "\x7d" ++ style.classTrailer
  | .method head none =>
    if head.name = "" then malformed .methodWithoutName
    else do
      let attrs ← attrLines head.attrGroups
      let lead := attrs ++ head.flags.text ++ "function " ++ refMark head.byRef ++ head.name
      let (sig, _) ←
        (signature style lead head.params head.returns).within (.inMethod head.name)
      return sig ++ ";"
  | .method head (some stmts) =>
    if head.name = "" then malformed .methodWithoutName
    else do
      let attrs ← attrLines head.attrGroups
      let lead := attrs ++ head.flags.text ++ "function " ++ refMark head.byRef ++ head.name
      let (sig, layout) ←
        (signature style lead head.params head.returns).within (.inMethod head.name)
      let inner ← (nested (body style (members style stmts))).within (.inMethod head.name)
      let nl ← newline
      return sig ++ opener layout nl ++ inner ++ nl ++ "\x7d"
  | .function head stmts =>
    if head.name = "" then malformed .functionWithoutName
    else do
      let attrs ← attrLines head.attrGroups
      let lead := attrs ++ "function " ++ refMark head.byRef ++ head.name
      let (sig, layout) ←
        (signature style lead head.params head.returns).within (.inFunction head.name)
      let inner ← (nested (body style (members style stmts))).within (.inFunction head.name)
      let nl ← newline
      return sig ++ opener layout nl ++ inner ++ nl ++ "\x7d"
  | .property decl => property decl
  | .constants decl => constants decl
  | .traitUse decl => lift (traitUseText decl)
  | .expression _ e => do
    let text ← optExpr e
    return text ++ ";"
  | .ret _ none => return "return;"
  | .ret _ (some e) => do
    let text ← expr e
    return "return " ++ text ++ ";"
  | .forLoop head stmts => do
    let init ← commaSeparated (exprItems head.init)
    let cond ← commaSeparated (exprItems head.cond)
    let loop ← commaSeparated (exprItems head.loop)
    let inner ← nested (body style (members style stmts))
    let nl ← newline
    return "for (" ++ init ++ ";" ++ spaced cond ++ ";" ++ spaced loop ++ ") \x7b" ++ inner ++
      nl ++ "\x7d"
  | .nop _ => return ""
  | .foreign _ _ typeName => malformed (.unsupportedNode typeName)

/-- Statements as the members of a body. -/
def members (style : Style) : List (Option Stmt) → List (Option Member)
  | [] => []
  | s :: rest => member style s :: members style rest

/-- A statement as a member of a body. -/
def member (style : Style) : Option Stmt → Option Member
  | none => none
  | some s => some ⟨some s.comments, stmt style s, s.kind, s.isNop⟩

end

/-! ## Any element -/

/-- Print an element. -/
def node (style : Style) : Node → Printer String
  | .stmt s => stmt style s
  | .expr e => expr e
  | .type t => lift (.ofExcept t.text)
  | .param p => param p
  | .propertyItem p => propertyItem p
  | .constItem c => constItem c
  | .attrGroup g => attrGroup g
  | .attribute a => attr a
  | .arg a => arg a
  | .arrayItem i => arrayItem i
  | .null t => lift t.nullText
  | .foreign _ typeName => malformed (.unsupportedNode typeName)

/-- Print an element that may be missing. -/
def optNode (style : Style) : Option Node → Printer String
  | none => malformed .nilNode
  | some n => node style n

/-- Elements as items of a list. -/
def nodeItems (style : Style) (nodes : List (Option Node)) : List (Option Item) :=
  nodes.map (·.map fun n => ⟨n.comments, node style n⟩)

/-- A statement that is handed over, as a member of a body. -/
def pointerMember (style : Style) : StmtPointer → Member
  | .stmt s => ⟨some s.comments, stmt style s, s.kind, s.isNop⟩
  | .null t => ⟨none, lift (NodeType.stmt t).nullText, t.kind, t = .nop⟩

/-- Statements that are handed over, as the members of a body. -/
def pointerMembers (style : Style) (stmts : List (Option StmtPointer)) : List (Option Member) :=
  stmts.map (·.map (pointerMember style))

/-- Print a list of statements from the left margin, without white space in front. The printer
stays at the margin. -/
def prettyPrint (style : Style) (stmts : List (Option StmtPointer)) : Printer String := do
  reset
  let text ← body style (pointerMembers style stmts)
  return String.ofList (text.toList.dropWhile isMargin)

end PhpDecl.Printer
