import PhpDecl.Render.Expr
import PhpDecl.Render.Style

/-!
# Declarations and statements as text

* `attributeText`, `attrGroupText`, `paramText`, `propertyItemText`, `constItemText`: the parts
  of declarations;
* `signature`: a name, its parameters and its return type;
* `Stmt.render`: the text of a statement in a style at a depth;
* `members`: statements as the members of a body.
-/

namespace PhpDecl

/-! ## Parts of declarations -/

/-- The text of an attribute. -/
def attributeText (a : Attribute) (depth : Int) : Traced String :=
  if a.args.isEmpty then return a.name
  else do
    let args ← maybeMultiline (argItems a.args) true depth
    return a.name ++ "(" ++ args ++ ")"

/-- The text of an attribute group. -/
def attrGroupText (g : AttrGroup) (depth : Int) : Traced String := do
  let attrs ← commaSeparated (g.attrs.map fun a => some ⟨some a.comments, attributeText a⟩) depth
  return "#[" ++ attrs ++ "]"

/-- Attribute groups, each on a line of its own in front of a declaration. -/
def attrLines : List AttrGroup → Int → Traced String
  | [], _ => return ""
  | g :: rest, depth => do
    let text ← attrGroupText g depth
    let nl ← newline depth
    let more ← attrLines rest depth
    return text ++ nl ++ more

/-- Attribute groups in front of a parameter, on its line. -/
def inlineAttrs : List AttrGroup → Int → Traced String
  | [], _ => return ""
  | g :: rest, depth => do
    let text ← attrGroupText g depth
    let more ← inlineAttrs rest depth
    return text ++ " " ++ more

/-- A type in front of a name. -/
def typeBefore : Option TypeExpr → Traced String
  | none => return ""
  | some t => do
    let text ← .ofExcept t.text
    return text ++ " "

/-- A default value after a name. -/
def defaultAfter : Option Expr → Int → Traced String
  | none, _ => return ""
  | some e, depth => do
    let text ← e.render depth
    return " = " ++ text

/-- The mark of something taken or given by reference. -/
def refMark (byRef : Bool) : String := if byRef then "&" else ""

/-- The text of a parameter. -/
def paramText (p : Param) (depth : Int) : Traced String :=
  if p.name = "" then .malformed .parameterWithoutName
  else do
    let attrs ← inlineAttrs p.attrGroups depth
    let type ← typeBefore p.type
    let default ← defaultAfter p.default depth
    return attrs ++ p.flags.text ++ type ++ refMark p.byRef ++
      (if p.variadic then "..." else "") ++ "$" ++ p.name ++ default

/-- Parameters as items of a list. -/
def paramItems (params : List Param) : List (Option Item) :=
  params.map fun p => some ⟨some p.comments, paramText p⟩

/-- The text of a field. -/
def propertyItemText (p : PropertyItem) (depth : Int) : Traced String := do
  let default ← defaultAfter p.default depth
  return "$" ++ p.name ++ default

/-- The text of a constant. -/
def constItemText (c : ConstItem) (depth : Int) : Traced String :=
  match c.value with
  | none => .malformed (.constWithoutValue c.name)
  | some e => do
    let text ← e.render depth
    return c.name ++ " = " ++ text

/-! ## Declarations without a body -/

/-- The text of a property declaration. -/
def propertyText (p : Property) (depth : Int) : Traced String :=
  if p.items.isEmpty then .malformed .propertyWithoutItems
  else do
    let attrs ← attrLines p.attrGroups depth
    let type ← typeBefore p.type
    let items ← commaSeparated
      (p.items.map fun i => some ⟨some i.comments, propertyItemText i⟩) depth
    return attrs ++ (if p.flags.text = "" then "var " else p.flags.text) ++ type ++ items ++ ";"

/-- The text of a constant declaration. -/
def constantsText (c : Constants) (depth : Int) : Traced String :=
  if c.items.isEmpty then .malformed .constWithoutItems
  else do
    let attrs ← attrLines c.attrGroups depth
    let items ← commaSeparated (c.items.map fun i => some ⟨some i.comments, constItemText i⟩) depth
    return attrs ++ c.flags.text ++ "const " ++ items ++ ";"

/-- The text of an import of traits. -/
def traitUseText (t : TraitUse) : Traced String :=
  if t.traits.isEmpty then .malformed .useWithoutTraits
  else return "use " ++ ", ".intercalate t.traits ++ ";"

/-! ## Heads -/

/-- A class up to the line of its opening brace, without attributes. -/
def ClassHead.text (head : ClassHead) : String :=
  head.flags.text ++ "class" ++ (if head.name = "" then "" else " " ++ head.name) ++
    (if head.parent = "" then "" else " extends " ++ head.parent) ++
    (if head.implements.isEmpty then "" else " implements " ++ ", ".intercalate head.implements)

/-- The return type after a parameter list. -/
def returnAfter : Option TypeExpr → Traced String
  | none => return ""
  | some t => do
    let text ← .ofExcept t.text
    return ": " ++ text

/-- `lead`, the parameters in parentheses and the return type, with the layout of the
parameters. -/
def signature (style : Style) (lead : String) (params : List Param) (returns : Option TypeExpr)
    (depth : Int) : Traced (String × Layout) := do
  let ret ← returnAfter returns
  let (list, layout) ←
    style.paramList (paramItems params) (columnAfter depth lead) (Text.width ret) depth
  return (lead ++ "(" ++ list ++ ")" ++ ret, layout)

/-- The opening brace after a signature: on the line of a wrapped parameter list, else on a line
of its own. -/
def opener (layout : Layout) (nl : String) : String :=
  match layout with
  | .multiLine => " \x7b"
  | .singleLine => nl ++ "\x7b"

/-- A text after a space, nothing for an empty text. -/
def spaced (s : String) : String := if s = "" then "" else " " ++ s

/-! ## Statements -/

mutual

/-- The text of a statement. -/
def Stmt.render (style : Style) : Stmt → Int → Traced String
  | .classDecl head stmts, depth => do
    let attrs ← attrLines head.attrGroups depth
    let inner ← (style.body (members style stmts) (depth + 1)).within (.inClass head.name)
    let nl ← newline depth
    return attrs ++ head.text ++ nl ++ "\x7b" ++ inner ++ nl ++ "\x7d" ++ style.classTrailer
  | .method head none, depth =>
    if head.name = "" then .malformed .methodWithoutName
    else do
      let attrs ← attrLines head.attrGroups depth
      let lead := attrs ++ head.flags.text ++ "function " ++ refMark head.byRef ++ head.name
      let (sig, _) ←
        (signature style lead head.params head.returns depth).within (.inMethod head.name)
      return sig ++ ";"
  | .method head (some stmts), depth =>
    if head.name = "" then .malformed .methodWithoutName
    else do
      let attrs ← attrLines head.attrGroups depth
      let lead := attrs ++ head.flags.text ++ "function " ++ refMark head.byRef ++ head.name
      let (sig, layout) ←
        (signature style lead head.params head.returns depth).within (.inMethod head.name)
      let inner ← (style.body (members style stmts) (depth + 1)).within (.inMethod head.name)
      let nl ← newline depth
      return sig ++ opener layout nl ++ inner ++ nl ++ "\x7d"
  | .function head stmts, depth =>
    if head.name = "" then .malformed .functionWithoutName
    else do
      let attrs ← attrLines head.attrGroups depth
      let lead := attrs ++ "function " ++ refMark head.byRef ++ head.name
      let (sig, layout) ←
        (signature style lead head.params head.returns depth).within (.inFunction head.name)
      let inner ← (style.body (members style stmts) (depth + 1)).within (.inFunction head.name)
      let nl ← newline depth
      return sig ++ opener layout nl ++ inner ++ nl ++ "\x7d"
  | .property decl, depth => propertyText decl depth
  | .constants decl, depth => constantsText decl depth
  | .traitUse decl, _ => traitUseText decl
  | .expression _ expr, depth => do
    let text ← exprText expr depth
    return text ++ ";"
  | .ret _ none, _ => return "return;"
  | .ret _ (some e), depth => do
    let text ← e.render depth
    return "return " ++ text ++ ";"
  | .forLoop head stmts, depth => do
    let init ← commaSeparated (exprItems head.init) depth
    let cond ← commaSeparated (exprItems head.cond) depth
    let loop ← commaSeparated (exprItems head.loop) depth
    let inner ← style.body (members style stmts) (depth + 1)
    let nl ← newline depth
    return "for (" ++ init ++ ";" ++ spaced cond ++ ";" ++ spaced loop ++ ") \x7b" ++ inner ++
      nl ++ "\x7d"
  | .nop _, _ => return ""
  | .foreign _ _ typeName, _ => .malformed (.unsupportedNode typeName)

/-- Statements as the members of a body. -/
def members (style : Style) : List (Option Stmt) → List (Option Member)
  | [] => []
  | s :: rest => member style s :: members style rest

/-- A statement as a member of a body. -/
def member (style : Style) : Option Stmt → Option Member
  | none => none
  | some s => some ⟨some s.comments, s.render style, s.kind, s.isNop⟩

end

end PhpDecl
