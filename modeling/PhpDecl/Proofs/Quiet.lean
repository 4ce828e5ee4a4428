import Mathlib.Tactic.Common
import PhpDecl.Render.Node

/-!
# Comments that are never printed

Comments are printed in front of statements, parameters, arguments and array elements. A tree from
which all other comments are dropped prints the same.

* `TypeExpr.quiet`, `Expr.quiet`, `Attribute.quiet`, `Param.quiet`, `Stmt.quiet` and their
  companions: the tree without the comments that are never printed;
* `Expr.render_quiet`, `paramText_quiet`, `Stmt.render_quiet`: they do not matter;
* **`prettyPrint_quiet`**: a list of statements prints the same without them.
-/

namespace PhpDecl

/-! ## Dropping comments -/

mutual

/-- The type without its comments. -/
def TypeExpr.quiet : TypeExpr → TypeExpr
  | .named _ name => .named [] name
  | .nullable _ inner => .nullable [] (TypeExpr.optQuiet inner)
  | .union _ parts => .union [] (TypeExpr.listQuiet parts)
  | .foreign _ typeName => .foreign [] typeName

/-- A type that may be missing, without its comments. -/
def TypeExpr.optQuiet : Option TypeExpr → Option TypeExpr
  | none => none
  | some t => some t.quiet

/-- The parts of a union without their comments. -/
def TypeExpr.listQuiet : List (Option TypeExpr) → List (Option TypeExpr)
  | [] => []
  | t :: rest => TypeExpr.optQuiet t :: TypeExpr.listQuiet rest

end

mutual

/-- The expression with no comments but those of arguments and array elements. -/
def Expr.quiet : Expr → Expr
  | .variable _ name => .variable [] name
  | .string _ value => .string [] value
  | .integer _ value => .integer [] value
  | .constant _ name => .constant [] name
  | .call _ name args => .call [] name (Arg.listQuiet args)
  | .methodCall _ target name args =>
    .methodCall [] (Expr.optQuiet target) name (Arg.listQuiet args)
  | .fetch _ target name => .fetch [] (Expr.optQuiet target) name
  | .assign _ target value => .assign [] (Expr.optQuiet target) (Expr.optQuiet value)
  | .array _ items => .array [] (ArrayItem.listQuiet items)
  | .foreign _ typeName => .foreign [] typeName

/-- An expression that may be missing, with no comments but those of its parts that print them. -/
def Expr.optQuiet : Option Expr → Option Expr
  | none => none
  | some e => some e.quiet

/-- The argument with its own comments and those that its value prints. -/
def Arg.quiet : Arg → Arg
  | .mk cs value unpack => .mk cs (Expr.optQuiet value) unpack

/-- The arguments with the comments that are printed. -/
def Arg.listQuiet : List Arg → List Arg
  | [] => []
  | a :: rest => a.quiet :: Arg.listQuiet rest

/-- The array element with its own comments and those that its parts print. -/
def ArrayItem.quiet : ArrayItem → ArrayItem
  | .mk cs key value => .mk cs (Expr.optQuiet key) (Expr.optQuiet value)

/-- The array elements with the comments that are printed. -/
def ArrayItem.listQuiet : List ArrayItem → List ArrayItem
  | [] => []
  | i :: rest => i.quiet :: ArrayItem.listQuiet rest

end

/-- The attribute with no comments but those of its arguments. -/
def Attribute.quiet (a : Attribute) : Attribute :=
  { a with comments := [], args := Arg.listQuiet a.args }

/-- The attribute group with no comments but those of arguments. -/
def AttrGroup.quiet (g : AttrGroup) : AttrGroup := { attrs := g.attrs.map Attribute.quiet }

/-- The parameter with its own comments and those that its parts print. -/
def Param.quiet (p : Param) : Param :=
  { p with
    type := TypeExpr.optQuiet p.type
    default := Expr.optQuiet p.default
    attrGroups := p.attrGroups.map AttrGroup.quiet }

/-- The field with no comments but those that its default prints. -/
def PropertyItem.quiet (p : PropertyItem) : PropertyItem :=
  { p with comments := [], default := Expr.optQuiet p.default }

/-- The constant with no comments but those that its value prints. -/
def ConstItem.quiet (c : ConstItem) : ConstItem :=
  { c with comments := [], value := Expr.optQuiet c.value }

/-- The property declaration with its own comments and those that its parts print. -/
def Property.quiet (p : Property) : Property :=
  { p with
    type := TypeExpr.optQuiet p.type
    items := p.items.map PropertyItem.quiet
    attrGroups := p.attrGroups.map AttrGroup.quiet }

/-- The constant declaration with its own comments and those that its parts print. -/
def Constants.quiet (c : Constants) : Constants :=
  { c with
    items := c.items.map ConstItem.quiet
    attrGroups := c.attrGroups.map AttrGroup.quiet }

/-- The head of a class with its own comments and those that its attributes print. -/
def ClassHead.quiet (h : ClassHead) : ClassHead :=
  { h with attrGroups := h.attrGroups.map AttrGroup.quiet }

/-- The head of a method with its own comments and those that its parts print. -/
def MethodHead.quiet (h : MethodHead) : MethodHead :=
  { h with
    params := h.params.map Param.quiet
    returns := TypeExpr.optQuiet h.returns
    attrGroups := h.attrGroups.map AttrGroup.quiet }

/-- The head of a function with its own comments and those that its parts print. -/
def FunctionHead.quiet (h : FunctionHead) : FunctionHead :=
  { h with
    params := h.params.map Param.quiet
    returns := TypeExpr.optQuiet h.returns
    attrGroups := h.attrGroups.map AttrGroup.quiet }

/-- The head of a loop with its own comments and those that its expressions print. -/
def ForHead.quiet (h : ForHead) : ForHead :=
  { h with
    init := h.init.map Expr.optQuiet
    cond := h.cond.map Expr.optQuiet
    loop := h.loop.map Expr.optQuiet }

mutual

/-- The statement with its own comments and those that its parts print. -/
def Stmt.quiet : Stmt → Stmt
  | .classDecl head members => .classDecl head.quiet (Stmt.listQuiet members)
  | .method head none => .method head.quiet none
  | .method head (some body) => .method head.quiet (some (Stmt.listQuiet body))
  | .function head body => .function head.quiet (Stmt.listQuiet body)
  | .property decl => .property decl.quiet
  | .constants decl => .constants decl.quiet
  | .traitUse decl => .traitUse decl
  | .expression cs expr => .expression cs (Expr.optQuiet expr)
  | .ret cs expr => .ret cs (Expr.optQuiet expr)
  | .forLoop head body => .forLoop head.quiet (Stmt.listQuiet body)
  | .nop cs => .nop cs
  | .foreign cs kind typeName => .foreign cs kind typeName

/-- The statements of a body with the comments that are printed. -/
def Stmt.listQuiet : List (Option Stmt) → List (Option Stmt)
  | [] => []
  | s :: rest => Stmt.optQuiet s :: Stmt.listQuiet rest

/-- A statement that may be missing, with the comments that are printed. -/
def Stmt.optQuiet : Option Stmt → Option Stmt
  | none => none
  | some s => some s.quiet

end

/-! ## Types and expressions -/

mutual

theorem TypeExpr.text_quiet : ∀ t : TypeExpr, t.quiet.text = t.text
  | .named _ _ => rfl
  | .nullable _ inner => by
    rw [TypeExpr.quiet, TypeExpr.text, TypeExpr.text, TypeExpr.partText_quiet inner]
  | .union _ parts => by
    rw [TypeExpr.quiet, TypeExpr.text, TypeExpr.text, TypeExpr.partTexts_quiet parts]
  | .foreign _ _ => rfl

theorem TypeExpr.partText_quiet : ∀ t : Option TypeExpr,
    TypeExpr.partText (TypeExpr.optQuiet t) = TypeExpr.partText t
  | none => rfl
  | some t => TypeExpr.text_quiet t

theorem TypeExpr.partTexts_quiet : ∀ ts : List (Option TypeExpr),
    TypeExpr.partTexts (TypeExpr.listQuiet ts) = TypeExpr.partTexts ts
  | [] => rfl
  | t :: ts => by
    rw [TypeExpr.listQuiet, TypeExpr.partTexts, TypeExpr.partTexts, TypeExpr.partText_quiet t,
      TypeExpr.partTexts_quiet ts]

end

theorem Arg.comments_quiet : ∀ a : Arg, a.quiet.comments = a.comments
  | .mk _ _ _ => rfl

theorem ArrayItem.comments_quiet : ∀ i : ArrayItem, i.quiet.comments = i.comments
  | .mk _ _ _ => rfl

mutual

/-- **An expression prints the same without the comments that are never printed.** -/
theorem Expr.render_quiet : ∀ (e : Expr) (depth : Int), e.quiet.render depth = e.render depth
  | .variable _ _, _ | .string _ _, _ | .integer _ _, _ | .constant _ _, _ => rfl
  | .call _ _ args, depth => by
    rw [Expr.quiet, Expr.render, Expr.render, argItems_quiet args]
  | .methodCall _ target _ args, depth => by
    rw [Expr.quiet, Expr.render, Expr.render, exprText_quiet target depth, argItems_quiet args]
  | .fetch _ target _, depth => by
    rw [Expr.quiet, Expr.render, Expr.render, exprText_quiet target depth]
  | .assign _ target value, depth => by
    rw [Expr.quiet, Expr.render, Expr.render, exprText_quiet target depth,
      exprText_quiet value depth]
  | .array _ items, depth => by
    rw [Expr.quiet, Expr.render, Expr.render, arrayItems_quiet items]
  | .foreign _ _, _ => rfl

theorem exprText_quiet : ∀ (e : Option Expr) (depth : Int),
    exprText (Expr.optQuiet e) depth = exprText e depth
  | none, _ => rfl
  | some e, depth => Expr.render_quiet e depth

theorem argItems_quiet : ∀ args : List Arg, argItems (Arg.listQuiet args) = argItems args
  | [] => rfl
  | a :: rest => by
    rw [Arg.listQuiet, argItems, argItems, argItems_quiet rest, Arg.comments_quiet,
      funext (argText_quiet a)]

theorem argText_quiet : ∀ (a : Arg) (depth : Int), argText a.quiet depth = argText a depth
  | .mk _ value _, depth => by rw [Arg.quiet, argText, argText, exprText_quiet value depth]

theorem arrayItems_quiet : ∀ items : List ArrayItem,
    arrayItems (ArrayItem.listQuiet items) = arrayItems items
  | [] => rfl
  | i :: rest => by
    rw [ArrayItem.listQuiet, arrayItems, arrayItems, arrayItems_quiet rest,
      ArrayItem.comments_quiet, funext (arrayItemText_quiet i)]

theorem arrayItemText_quiet : ∀ (i : ArrayItem) (depth : Int),
    arrayItemText i.quiet depth = arrayItemText i depth
  | .mk _ key value, depth => by
    rw [ArrayItem.quiet, arrayItemText, arrayItemText, exprText_quiet value depth,
      keyText_quiet key depth]

theorem keyText_quiet : ∀ (key : Option Expr) (depth : Int),
    keyText (Expr.optQuiet key) depth = keyText key depth
  | none, _ => rfl
  | some key, depth => by rw [Expr.optQuiet, keyText, keyText, Expr.render_quiet key depth]

end

/-! ## Parts of declarations -/

/-- Items that differ in their comments only are the same on one line. -/
theorem commaSeparated_map {α : Type} {f g : α → Option Item} (xs : List α) (depth : Int)
    (h : ∀ x, itemText (f x) depth = itemText (g x) depth) :
    commaSeparated (xs.map f) depth = commaSeparated (xs.map g) depth := by
  have ht : itemTexts (xs.map f) depth = itemTexts (xs.map g) depth := by
    induction xs with
    | nil => rfl
    | cons x xs ih =>
      rw [List.map_cons, List.map_cons, itemTexts, itemTexts, h x, ih]
  rw [commaSeparated, commaSeparated, ht]

theorem commaSeparated_map_quiet {α : Type} (comments : α → List Comment) {quiet : α → α}
    {text : α → Int → Traced String} (h : ∀ x depth, text (quiet x) depth = text x depth)
    (xs : List α) (depth : Int) :
    commaSeparated ((xs.map quiet).map fun x => some ⟨comments x, text x⟩) depth =
      commaSeparated (xs.map fun x => some ⟨comments x, text x⟩) depth := by
  rw [List.map_map]
  exact commaSeparated_map xs depth fun x => h x depth

theorem attributeText_quiet (a : Attribute) (depth : Int) :
    attributeText a.quiet depth = attributeText a depth := by
  have he : (Arg.listQuiet a.args).isEmpty = a.args.isEmpty := by
    cases a.args <;> rfl
  rw [attributeText, attributeText, Attribute.quiet]
  dsimp only
  rw [he, argItems_quiet]

theorem attrGroupText_quiet (g : AttrGroup) (depth : Int) :
    attrGroupText g.quiet depth = attrGroupText g depth := by
  rw [attrGroupText, attrGroupText, AttrGroup.quiet]
  dsimp only
  rw [commaSeparated_map_quiet Attribute.comments attributeText_quiet]

theorem attrLines_quiet (gs : List AttrGroup) (depth : Int) :
    attrLines (gs.map AttrGroup.quiet) depth = attrLines gs depth := by
  induction gs with
  | nil => rfl
  | cons g gs ih => rw [List.map_cons, attrLines, attrLines, attrGroupText_quiet, ih]

theorem inlineAttrs_quiet (gs : List AttrGroup) (depth : Int) :
    inlineAttrs (gs.map AttrGroup.quiet) depth = inlineAttrs gs depth := by
  induction gs with
  | nil => rfl
  | cons g gs ih => rw [List.map_cons, inlineAttrs, inlineAttrs, attrGroupText_quiet, ih]

theorem typeBefore_quiet (t : Option TypeExpr) :
    typeBefore (TypeExpr.optQuiet t) = typeBefore t := by
  cases t with
  | none => rfl
  | some t => rw [TypeExpr.optQuiet, typeBefore, typeBefore, TypeExpr.text_quiet]

theorem returnAfter_quiet (t : Option TypeExpr) :
    returnAfter (TypeExpr.optQuiet t) = returnAfter t := by
  cases t with
  | none => rfl
  | some t => rw [TypeExpr.optQuiet, returnAfter, returnAfter, TypeExpr.text_quiet]

theorem defaultAfter_quiet (e : Option Expr) (depth : Int) :
    defaultAfter (Expr.optQuiet e) depth = defaultAfter e depth := by
  cases e with
  | none => rfl
  | some e => rw [Expr.optQuiet, defaultAfter, defaultAfter, Expr.render_quiet]

theorem paramText_quiet (p : Param) (depth : Int) :
    paramText p.quiet depth = paramText p depth := by
  rw [paramText, paramText, Param.quiet]
  dsimp only
  rw [inlineAttrs_quiet, typeBefore_quiet, defaultAfter_quiet]

theorem paramItems_quiet (ps : List Param) : paramItems (ps.map Param.quiet) = paramItems ps := by
  rw [paramItems, paramItems, List.map_map]
  refine List.map_congr_left fun p _ => ?_
  rw [Function.comp_apply, funext (paramText_quiet p)]
  rfl

theorem propertyItemText_quiet (p : PropertyItem) (depth : Int) :
    propertyItemText p.quiet depth = propertyItemText p depth := by
  rw [propertyItemText, propertyItemText, PropertyItem.quiet]
  dsimp only
  rw [defaultAfter_quiet]

theorem constItemText_quiet (c : ConstItem) (depth : Int) :
    constItemText c.quiet depth = constItemText c depth := by
  rw [constItemText, constItemText, ConstItem.quiet]
  dsimp only
  cases c.value with
  | none => rfl
  | some e =>
    rw [Expr.optQuiet]
    dsimp only
    rw [Expr.render_quiet]

theorem propertyText_quiet (p : Property) (depth : Int) :
    propertyText p.quiet depth = propertyText p depth := by
  rw [propertyText, propertyText, Property.quiet]
  dsimp only
  rw [List.isEmpty_map, attrLines_quiet, typeBefore_quiet,
    commaSeparated_map_quiet PropertyItem.comments propertyItemText_quiet]

theorem constantsText_quiet (c : Constants) (depth : Int) :
    constantsText c.quiet depth = constantsText c depth := by
  rw [constantsText, constantsText, Constants.quiet]
  dsimp only
  rw [List.isEmpty_map, attrLines_quiet,
    commaSeparated_map_quiet ConstItem.comments constItemText_quiet]

theorem exprItems_quiet (es : List (Option Expr)) (depth : Int) :
    commaSeparated (exprItems (es.map Expr.optQuiet)) depth =
      commaSeparated (exprItems es) depth := by
  rw [exprItems, exprItems, List.map_map]
  refine commaSeparated_map es depth fun e => ?_
  cases e with
  | none => rfl
  | some e => exact Expr.render_quiet e depth

theorem signature_quiet (style : Style) (lead : String) (params : List Param)
    (returns : Option TypeExpr) (depth : Int) :
    signature style lead (params.map Param.quiet) (TypeExpr.optQuiet returns) depth =
      signature style lead params returns depth := by
  rw [signature, signature, returnAfter_quiet, paramItems_quiet]

/-! ## Statements -/

/-- A statement keeps its own comments and its role in a body. -/
theorem Stmt.role_quiet : ∀ s : Stmt,
    s.quiet.comments = s.comments ∧ s.quiet.kind = s.kind ∧ s.quiet.isNop = s.isNop
  | .classDecl _ _ | .method _ none | .method _ (some _) | .function _ _ | .property _
  | .constants _ | .traitUse _ | .expression _ _ | .ret _ _ | .forLoop _ _ | .nop _
  | .foreign _ _ _ => ⟨rfl, rfl, rfl⟩

mutual

/-- **A statement prints the same without the comments that are never printed.** -/
theorem Stmt.render_quiet (style : Style) : ∀ (s : Stmt) (depth : Int),
    s.quiet.render style depth = s.render style depth
  | .classDecl head stmts, depth => by
    rw [Stmt.quiet, Stmt.render, Stmt.render, ClassHead.quiet, members_quiet style stmts]
    dsimp only
    rw [attrLines_quiet]
    rfl
  | .method head none, depth => by
    rw [Stmt.quiet, Stmt.render, Stmt.render, MethodHead.quiet]
    dsimp only
    rw [attrLines_quiet]
    simp only [signature_quiet]
  | .method head (some stmts), depth => by
    rw [Stmt.quiet, Stmt.render, Stmt.render, MethodHead.quiet, members_quiet style stmts]
    dsimp only
    rw [attrLines_quiet]
    simp only [signature_quiet]
  | .function head stmts, depth => by
    rw [Stmt.quiet, Stmt.render, Stmt.render, FunctionHead.quiet, members_quiet style stmts]
    dsimp only
    rw [attrLines_quiet]
    simp only [signature_quiet]
  | .property decl, depth => by
    rw [Stmt.quiet, Stmt.render, Stmt.render, propertyText_quiet]
  | .constants decl, depth => by
    rw [Stmt.quiet, Stmt.render, Stmt.render, constantsText_quiet]
  | .traitUse decl, _ => by rw [Stmt.quiet]
  | .expression _ expr, depth => by
    rw [Stmt.quiet, Stmt.render, Stmt.render, exprText_quiet]
  | .ret _ none, depth => by
    rw [Stmt.quiet, Expr.optQuiet]
  | .ret _ (some e), depth => by
    rw [Stmt.quiet, Expr.optQuiet, Stmt.render, Stmt.render, Expr.render_quiet]
  | .forLoop head stmts, depth => by
    rw [Stmt.quiet, Stmt.render, Stmt.render, ForHead.quiet, members_quiet style stmts]
    dsimp only
    rw [exprItems_quiet, exprItems_quiet, exprItems_quiet]
  | .nop _, _ => by rw [Stmt.quiet]
  | .foreign _ _ _, _ => by rw [Stmt.quiet]

theorem members_quiet (style : Style) : ∀ stmts : List (Option Stmt),
    members style (Stmt.listQuiet stmts) = members style stmts
  | [] => rfl
  | s :: rest => by
    rw [Stmt.listQuiet, members, members, member_quiet style s, members_quiet style rest]

theorem member_quiet (style : Style) : ∀ s : Option Stmt,
    member style (Stmt.optQuiet s) = member style s
  | none => rfl
  | some s => by
    obtain ⟨hcomments, hkind, hnop⟩ := Stmt.role_quiet s
    rw [Stmt.optQuiet, member, member, hcomments, hkind, hnop,
      funext (Stmt.render_quiet style s)]

end

/-- **A list of statements prints the same without the comments that are never printed.** -/
theorem prettyPrint_quiet (style : Style) (stmts : List (Option Stmt)) :
    prettyPrint style (Stmt.listQuiet stmts) = prettyPrint style stmts := by
  rw [prettyPrint, prettyPrint, members_quiet]

end PhpDecl
