import PhpDecl.Document.Basic
import PhpDecl.Document.Error
import PhpDecl.Tree.Stmt

/-!
# From documents to trees

* `buildModifiers`, `withoutSigil`: words of a document;
* `Document.Value.toExpr`: the expression of a value, none for a value that sets nothing;
* `Document.Statement.toStmt`, `Document.Parameter.toParam`, `Document.Member.toStmt`;
* `Document.toClass`: the class that a document describes, or what is wrong with it.
-/

namespace PhpDecl

/-! ## Words -/

/-- The set of the modifiers that the words stand for. -/
def buildModifiers : List String → Except DocumentError Modifiers
  | words => go .empty words
where
  /-- Add the words to a set, up to the first that is no modifier. That is a fault of a tree, which
  is made one of the document. -/
  go (s : Modifiers) : List String → Except DocumentError Modifiers
    | [] => .ok s
    | w :: rest =>
      match Modifier.parse w with
      | .ok m => go (s.insert m) rest
      | .error fault => .error (.quoting fault.message)

/-- A variable name without the dollar sign in front. -/
def withoutSigil (name : String) : String :=
  match name.toList with
  | '$' :: rest => String.ofList rest
  | _ => name

/-- Comments with the given texts. -/
def buildComments (texts : List String) : List Comment := texts.map Comment.mk

/-- One attribute group without arguments for each name. -/
def buildAttributes (names : List String) : List AttrGroup := names.map fun n => .single n []

/-- A field of the object itself. -/
def ownField (name : String) : Expr := .fetch [] (some (.variable [] "this")) name

/-- Build the parts of a list in order, up to the first fault. -/
def buildEach {α β : Type} (f : α → Except DocumentError β) : List α → Except DocumentError (List β)
  | [] => .ok []
  | a :: rest => do
    let b ← f a
    let more ← buildEach f rest
    return b :: more

/-- Name the method around a fault. -/
def inMethod {α : Type} (name : String) : Except DocumentError α → Except DocumentError α
  | .ok a => .ok a
  | .error cause => .error (.inMethod name cause)

namespace Document

/-! ## Values -/

/-- The alternatives that a value sets, in a fixed order. -/
def Value.alternatives (v : Value) : List Expr :=
  (v.string.map fun s => Expr.string [] s).toList ++
  (v.int.map fun n => Expr.integer [] n).toList ++
  (if v.const = "" then [] else [.constant [] v.const]) ++
  (if v.var = "" then [] else [.variable [] (withoutSigil v.var)]) ++
  (if v.property = "" then [] else [ownField v.property])

/-- The expression of a value. -/
def Value.toExpr (v : Value) : Except DocumentError (Option Expr) :=
  match v.alternatives with
  | [] => .ok none
  | [e] => .ok (some e)
  | several => .error (.severalAlternatives several.length)

/-- The expression of a value that may be missing. -/
def optionalExpr : Option Value → Except DocumentError (Option Expr)
  | none => .ok none
  | some v => v.toExpr

/-- The expression of a value that has to set something. -/
def Value.toExprOr (v : Value) (missing : DocumentError) : Except DocumentError Expr := do
  match ← v.toExpr with
  | some e => return e
  | none => throw missing

/-! ## Statements -/

/-- The place an assignment goes to. -/
def Assignment.target (a : Assignment) : Except DocumentError Expr :=
  if a.property ≠ "" then .ok (ownField a.property)
  else if a.var ≠ "" then .ok (.variable [] (withoutSigil a.var))
  else .error .assignmentWithoutTarget

/-- The argument of a call. -/
def toArg (call : String) (v : Value) : Except DocumentError Arg := do
  let e ← v.toExprOr (.emptyArgument call)
  return .mk [] (some e) false

/-- The statement of a body: the first alternative that is set decides. -/
def Statement.toStmt (s : Statement) : Except DocumentError Stmt :=
  let comments := buildComments s.comments
  match s.ret, s.assign with
  | some v, _ => do
    let e ← v.toExpr
    return .ret comments e
  | none, some a => do
    let target ← a.target
    let value ← a.value.toExprOr .assignmentWithoutValue
    return .expression comments (some (.assign [] (some target) (some value)))
  | none, none =>
    if s.call ≠ "" then do
      let args ← buildEach (toArg s.call) s.args
      return .expression comments (some (.call [] s.call args))
    else if s.var ≠ "" then
      .ok (.expression comments (some (.variable [] (withoutSigil s.var))))
    else if s.nop || !s.comments.isEmpty then .ok (.nop comments)
    else .error .emptyStatement

/-! ## Members -/

/-- The parameter of a method. -/
def Parameter.toParam (p : Parameter) : Except DocumentError Param :=
  if p.name = "" then .error .parameterWithoutName
  else do
    let flags ← buildModifiers p.modifiers
    let default ← optionalExpr p.default
    return {
      comments := buildComments p.comments
      name := withoutSigil p.name
      type := TypeExpr.ofText p.type
      flags, default
      byRef := p.byRef
      variadic := p.variadic
      attrGroups := buildAttributes p.attributes }

/-- A method with the given modifiers. Without a body it is abstract, and the other way round. -/
def Member.toMethod (m : Member) (flags : Modifiers) : Except DocumentError Stmt :=
  if m.name = "" then .error .methodWithoutName
  else do
    let params ← inMethod m.name (buildEach Parameter.toParam m.params)
    let head : MethodHead := {
      comments := buildComments m.comments
      name := m.name
      flags, params
      byRef := m.byRef
      returns := TypeExpr.ofText m.returns
      attrGroups := buildAttributes m.attributes }
    if flags.has .abstract then
      if m.body.isEmpty then return .method head none else throw (.abstractWithBody m.name)
    else
      let stmts ← inMethod m.name (buildEach Statement.toStmt m.body)
      return .method head (some (stmts.map some))

/-- A property with the given modifiers. -/
def Member.toProperty (m : Member) (flags : Modifiers) : Except DocumentError Stmt :=
  if m.name = "" then .error .propertyWithoutName
  else do
    let default ← optionalExpr m.value
    return .property {
      comments := buildComments m.comments
      flags
      type := TypeExpr.ofText m.type
      items := [{ name := m.name, default }]
      attrGroups := buildAttributes m.attributes }

/-- A constant with the given modifiers. -/
def Member.toConstant (m : Member) (flags : Modifiers) : Except DocumentError Stmt :=
  match m.value with
  | none => .error .constNeedsNameAndValue
  | some v =>
    if m.name = "" then .error .constNeedsNameAndValue
    else do
      let e ← v.toExprOr (.constWithEmptyValue m.name)
      return .constants {
        comments := buildComments m.comments
        flags
        items := [{ name := m.name, value := some e }]
        attrGroups := buildAttributes m.attributes }

/-- The member of a class. -/
def Member.toStmt (m : Member) : Except DocumentError Stmt := do
  let flags ← buildModifiers m.modifiers
  match m.kind with
  | "method" => m.toMethod flags
  | "property" => m.toProperty flags
  | "const" => m.toConstant flags
  | "use" =>
    if m.traits.isEmpty then throw .useWithoutTraits
    else return .traitUse { comments := buildComments m.comments, traits := m.traits }
  | "nop" => return .nop (buildComments m.comments)
  | kind => throw (.unknownKind kind)

/-- The members of a class from an index on, up to the first fault. -/
def buildMembers (className : String) : Nat → List Member → Except DocumentError (List Stmt)
  | _, [] => .ok []
  | index, m :: rest =>
    match m.toStmt with
    | .error cause => .error (.inMember className index cause)
    | .ok s => do
      let more ← buildMembers className (index + 1) rest
      return s :: more

/-! ## Classes -/

/-- The class of its description. -/
def Class.toClass (c : Class) : Except DocumentError ClassDecl :=
  if c.name = "" then .error .classWithoutName
  else do
    let flags ← buildModifiers c.modifiers
    let members ← buildMembers c.name 0 c.members
    let head : ClassHead := {
      comments := buildComments c.comments
      name := c.name
      flags
      parent := c.parent
      implements := c.implements
      attrGroups := buildAttributes c.attributes }
    return { head, members := members.map some }

/-- The class that a document describes. -/
def toClass (d : Document) : Except DocumentError ClassDecl :=
  match d.content with
  | none => .error .missingClass
  | some c => c.toClass

end Document

end PhpDecl
