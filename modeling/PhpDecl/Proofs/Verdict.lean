import PhpDecl.Proofs.Essence
import PhpDecl.Proofs.WellFormed

/-!
# The verdict on a tree

Whether a tree has a text, and what is wrong with it if it has none, depends on the tree alone.

* `succeeds_maybeMultiline`, `succeeds_compactBody_cons`: lists and bodies have a text if all their
  parts have one;
* `succeeds_expr`, `succeeds_param`, `succeeds_stmt`, `succeeds_nodeText`: in the plain style, an
  element has a text exactly when it is well formed;
* `succeeds_prettyPrint`: a list of statements, in every style;
* `nodeText_eq_nullPointer_iff`: null pointers that are read;
* **`nodeText_verdict`**: in every style at every depth an element has a text exactly when it is
  well formed, and otherwise the same fault, null pointers that are read apart.
-/

namespace PhpDecl

open Traced

/-! ## Lists -/

section Lists

variable {items : List (Option Item)} {d : Nat} {b : Bool}

theorem succeeds_itemTexts (items : List (Option Item)) (depth : Int) :
    (itemTexts items depth).succeeds = items.all fun i => (itemText i depth).succeeds := by
  induction items with
  | nil => rfl
  | cons i items ih =>
    rw [itemTexts, succeeds_bind fun s => succeeds_bind_pure _ _, ih, List.all_cons]

theorem succeeds_commaSeparated (items : List (Option Item)) (depth : Int) :
    (commaSeparated items depth).succeeds = items.all fun i => (itemText i depth).succeeds := by
  rw [commaSeparated, succeeds_bind_pure, succeeds_itemTexts]

theorem succeeds_newline (d : Nat) : (newline d).succeeds = true := by
  rw [newline_natCast]
  rfl

theorem succeeds_leadingComments (cs : List Comment) (d : Nat) :
    (leadingComments cs d).succeeds = true :=
  succeeds_iff.mpr ⟨_, result_leadingComments cs d⟩

theorem succeeds_itemLines (trailing : Bool) (hr : Readable items) (d : Nat) :
    (itemLines trailing items d).succeeds = items.all fun i => (itemText i d).succeeds := by
  induction items with
  | nil => rfl
  | cons i items ih =>
    cases i with
    | none => rfl
    | some i =>
      obtain ⟨cs, hcs⟩ := hr.head
      rw [itemLines, hcs, readComments_some_bind, List.all_cons, ← ih hr.tail,
        succeeds_bind fun above => succeeds_bind fun text => succeeds_bind fun nl =>
          succeeds_bind_pure _ _,
        succeeds_leadingComments, succeeds_newline, Bool.true_and, Bool.true_and]
      rfl

theorem succeeds_maybeMultiline (trailing : Bool) (hr : Readable items)
    (h : ∀ d : Nat, (items.all fun i => (itemText i d).succeeds) = b) (d : Nat) :
    (maybeMultiline items trailing d).succeeds = b := by
  rw [maybeMultiline_of_readable hr]
  split_ifs
  · rw [multilineBlock, succeeds_bind fun text => succeeds_bind_pure _ _, succeeds_newline,
      Bool.and_true]
    exact (succeeds_itemLines trailing hr (d + 1)).trans (h (d + 1))
  · rw [succeeds_commaSeparated, h d]

theorem all_items {α : Type} (xs : List α) (item : α → Item) (depth : Int) :
    ((xs.map fun x => some (item x)).all fun i => (itemText i depth).succeeds) =
      xs.all fun x => ((item x).text depth).succeeds := by
  rw [List.all_map]
  rfl

end Lists

/-! ## Types and expressions -/

section Expressions

theorem toBool_map {ε α β : Type} (x : Except ε α) (f : α → β) : (x.map f).toBool = x.toBool := by
  cases x <;> rfl

mutual

theorem toBool_text : ∀ t : TypeExpr, t.text.toBool = t.wellFormed
  | .named _ _ => rfl
  | .nullable _ inner => by
    rw [TypeExpr.text, toBool_map, toBool_partText, TypeExpr.wellFormed]
  | .union _ parts => by
    rw [TypeExpr.text, toBool_map, toBool_partTexts, TypeExpr.wellFormed]
  | .foreign _ _ => rfl

theorem toBool_partText : ∀ t : Option TypeExpr, (TypeExpr.partText t).toBool = TypeExpr.present t
  | none => rfl
  | some t => toBool_text t

theorem toBool_partTexts : ∀ ts : List (Option TypeExpr),
    (TypeExpr.partTexts ts).toBool = TypeExpr.allPresent ts
  | [] => rfl
  | t :: ts => by
    rw [TypeExpr.partTexts, TypeExpr.allPresent, ← toBool_partText t, ← toBool_partTexts ts]
    cases TypeExpr.partText t with
    | error c => rfl
    | ok s => exact toBool_map _ _

end

theorem succeeds_type (t : TypeExpr) : (ofExcept t.text).succeeds = t.wellFormed := by
  rw [← toBool_text]
  cases t.text <;> rfl

mutual

/-- **An expression has a text exactly when it is well formed.** -/
theorem succeeds_expr : ∀ (x : Expr) (d : Nat), (x.render d).succeeds = x.wellFormed
  | .variable _ _, _ => rfl
  | .string _ _, _ => rfl
  | .integer _ _, _ => rfl
  | .constant _ _, _ => rfl
  | .call _ _ args, d => by
    rw [Expr.render, succeeds_bind_pure, succeeds_maybeMultiline false (readable_argItems args)
      (succeeds_args args),
      Expr.wellFormed]
  | .methodCall _ target _ args, d => by
    rw [Expr.render, succeeds_bind fun object => succeeds_bind_pure _ _,
      succeeds_exprText target d, succeeds_maybeMultiline false (readable_argItems args)
      (succeeds_args args),
      Expr.wellFormed]
  | .fetch _ target _, d => by
    rw [Expr.render, succeeds_bind_pure, succeeds_exprText target d, Expr.wellFormed]
  | .assign _ target value, d => by
    rw [Expr.render, succeeds_bind fun left => succeeds_bind_pure _ _, succeeds_exprText target d,
      succeeds_exprText value d, Expr.wellFormed]
  | .array _ items, d => by
    rw [Expr.render, succeeds_bind_pure, succeeds_maybeMultiline true (readable_arrayItems items)
      (succeeds_arrayItems items),
      Expr.wellFormed]
  | .foreign _ _, _ => rfl

theorem succeeds_exprText : ∀ (x : Option Expr) (d : Nat),
    (exprText x d).succeeds = Expr.present x
  | none, _ => rfl
  | some x, d => succeeds_expr x d

theorem succeeds_args : ∀ (args : List Arg) (d : Nat),
    ((argItems args).all fun i => (itemText i d).succeeds) = Arg.allWellFormed args
  | [], _ => rfl
  | a :: rest, d => by
    rw [argItems, List.all_cons, succeeds_args rest d, Arg.allWellFormed, ← succeeds_arg a d]
    rfl

theorem succeeds_arg : ∀ (a : Arg) (d : Nat), (argText a d).succeeds = a.wellFormed
  | .mk _ value _, d => by
    rw [argText, succeeds_bind_pure, succeeds_exprText value d, Arg.wellFormed]

theorem succeeds_arrayItems : ∀ (items : List ArrayItem) (d : Nat),
    ((arrayItems items).all fun i => (itemText i d).succeeds) = ArrayItem.allWellFormed items
  | [], _ => rfl
  | i :: rest, d => by
    rw [arrayItems, List.all_cons, succeeds_arrayItems rest d, ArrayItem.allWellFormed,
      ← succeeds_arrayItem i d]
    rfl

theorem succeeds_arrayItem : ∀ (i : ArrayItem) (d : Nat),
    (arrayItemText i d).succeeds = i.wellFormed
  | .mk _ key value, d => by
    rw [arrayItemText, succeeds_bind fun text => succeeds_bind_pure _ _, succeeds_exprText value d,
      succeeds_keyText key d, ArrayItem.wellFormed, Bool.and_comm]

theorem succeeds_keyText : ∀ (key : Option Expr) (d : Nat),
    (keyText key d).succeeds = Expr.allowed key
  | none, _ => rfl
  | some x, d => by
    rw [keyText, succeeds_bind_pure, succeeds_expr x d, Expr.allowed]

end

end Expressions

/-! ## Parts of declarations -/

section Parts

variable (d : Nat)

theorem succeeds_exprItems (es : List (Option Expr)) :
    (commaSeparated (exprItems es) d).succeeds = es.all Expr.present := by
  rw [succeeds_commaSeparated, exprItems, List.all_map]
  congr 1
  funext x
  cases x with
  | none => rfl
  | some x => exact succeeds_expr x d

theorem succeeds_attribute (a : Attribute) : (attributeText a d).succeeds = a.wellFormed := by
  rw [attributeText, Attribute.wellFormed]
  split_ifs with h
  · rw [List.isEmpty_iff.mp h]
    rfl
  · rw [succeeds_bind_pure, succeeds_maybeMultiline true (readable_argItems a.args)
      (succeeds_args a.args)]

theorem succeeds_attrGroup (g : AttrGroup) : (attrGroupText g d).succeeds = g.wellFormed := by
  rw [attrGroupText, succeeds_bind_pure, succeeds_commaSeparated, AttrGroup.wellFormed,
    all_items g.attrs fun a => ⟨some a.comments, attributeText a⟩]
  exact congrArg g.attrs.all (funext (succeeds_attribute d))

theorem succeeds_attrLines (gs : List AttrGroup) :
    (attrLines gs d).succeeds = gs.all AttrGroup.wellFormed := by
  induction gs with
  | nil => rfl
  | cons g gs ih =>
    rw [attrLines, succeeds_bind fun text => succeeds_bind fun nl => succeeds_bind_pure _ _,
      succeeds_newline, Bool.true_and, ih, succeeds_attrGroup, List.all_cons]

theorem succeeds_inlineAttrs (gs : List AttrGroup) :
    (inlineAttrs gs d).succeeds = gs.all AttrGroup.wellFormed := by
  induction gs with
  | nil => rfl
  | cons g gs ih =>
    rw [inlineAttrs, succeeds_bind fun text => succeeds_bind_pure _ _, ih, succeeds_attrGroup,
      List.all_cons]

theorem succeeds_typeBefore (t : Option TypeExpr) :
    (typeBefore t).succeeds = TypeExpr.allowed t := by
  cases t with
  | none => rfl
  | some t => rw [typeBefore, succeeds_bind_pure, succeeds_type, TypeExpr.allowed]

theorem succeeds_returnAfter (t : Option TypeExpr) :
    (returnAfter t).succeeds = TypeExpr.allowed t := by
  cases t with
  | none => rfl
  | some t => rw [returnAfter, succeeds_bind_pure, succeeds_type, TypeExpr.allowed]

theorem succeeds_defaultAfter (x : Option Expr) :
    (defaultAfter x d).succeeds = Expr.allowed x := by
  cases x with
  | none => rfl
  | some x => rw [defaultAfter, succeeds_bind_pure, succeeds_expr, Expr.allowed]

/-- **A parameter has a text exactly when it is well formed.** -/
theorem succeeds_param (p : Param) : (paramText p d).succeeds = p.wellFormed := by
  rw [paramText, Param.wellFormed]
  by_cases hn : p.name = ""
  · rw [if_pos hn]
    simp [hn]
  · rw [if_neg hn, succeeds_bind fun attrs => succeeds_bind fun type => succeeds_bind_pure _ _,
      succeeds_inlineAttrs, succeeds_typeBefore, succeeds_defaultAfter]
    simp [hn, Bool.and_assoc]

theorem succeeds_propertyItem (p : PropertyItem) :
    (propertyItemText p d).succeeds = p.wellFormed := by
  rw [propertyItemText, succeeds_bind_pure, succeeds_defaultAfter, PropertyItem.wellFormed]

theorem succeeds_constItem (c : ConstItem) : (constItemText c d).succeeds = c.wellFormed := by
  rw [constItemText, ConstItem.wellFormed]
  cases c.value with
  | none => rfl
  | some x => exact (succeeds_bind_pure _ _).trans (succeeds_expr x d)

theorem succeeds_property (p : Property) : (propertyText p d).succeeds = p.wellFormed := by
  rw [propertyText, Property.wellFormed]
  by_cases hn : p.items.isEmpty = true
  · rw [if_pos hn]
    simp [hn]
  · rw [if_neg hn, succeeds_bind fun attrs => succeeds_bind fun type => succeeds_bind_pure _ _,
      succeeds_attrLines, succeeds_typeBefore, succeeds_commaSeparated,
      all_items p.items fun i => ⟨some i.comments, propertyItemText i⟩]
    simp [hn, Bool.and_assoc, succeeds_propertyItem]

theorem succeeds_constants (c : Constants) : (constantsText c d).succeeds = c.wellFormed := by
  rw [constantsText, Constants.wellFormed]
  by_cases hn : c.items.isEmpty = true
  · rw [if_pos hn]
    simp [hn]
  · rw [if_neg hn, succeeds_bind fun attrs => succeeds_bind_pure _ _, succeeds_attrLines,
      succeeds_commaSeparated, all_items c.items fun i => ⟨some i.comments, constItemText i⟩]
    simp [hn, succeeds_constItem]

theorem succeeds_traitUse (t : TraitUse) : (traitUseText t).succeeds = !t.traits.isEmpty := by
  rw [traitUseText]
  split_ifs with h
  · rw [h]
    rfl
  · rw [Bool.not_eq_true] at h
    rw [h]
    rfl

theorem succeeds_signature (lead : String) (params : List Param) (returns : Option TypeExpr) :
    (signature .standard lead params returns d).succeeds =
      (TypeExpr.allowed returns && params.all Param.wellFormed) := by
  have hp : ∀ d : Nat, ((paramItems params).all fun i => (itemText i d).succeeds) =
      params.all Param.wellFormed := by
    intro d
    rw [paramItems, all_items params fun p => ⟨some p.comments, paramText p⟩]
    exact congrArg params.all (funext (succeeds_param d))
  rw [signature, ← succeeds_returnAfter]
  refine succeeds_bind fun ret => (succeeds_bind (b := true) fun p => rfl).trans ?_
  rw [Bool.and_true, Style.paramList, succeeds_bind_pure, succeeds_maybeMultiline true
    (readable_paramItems params) hp]

end Parts

/-! ## Statements and elements -/

section Statements

theorem succeeds_compactBody_cons {m : Member} {cs : List Comment} (hcs : m.comments = some cs)
    (ms : List (Option Member)) {d : Nat} (hs : m.isNop = true → (m.text d).succeeds = true) :
    (compactBody (some m :: ms) d).succeeds =
      ((m.text d).succeeds && (compactBody ms d).succeeds) := by
  rw [compactBody, hcs, readComments_some_bind, succeeds_bind_ok (result_leadingComments cs d)]
  by_cases hn : (m.isNop && !cs.isEmpty) = true
  · rw [if_pos hn, succeeds_bind_pure, hs (Bool.and_eq_true_iff.mp hn).1, Bool.true_and]
  · rw [if_neg hn, succeeds_bind fun text => succeeds_bind fun nl => succeeds_bind_pure _ _,
      succeeds_newline, Bool.true_and]

/-- The rest of a method or a function after its attributes and its lead. -/
theorem succeeds_callable (lead : String) (params : List Param) (returns : Option TypeExpr)
    (ms : List (Option Member)) (d : Nat) (wrap : TreeError → TreeError) :
    (do
      let (sig, layout) ← (signature .standard lead params returns d).within wrap
      let inner ← (Style.standard.body ms (d + 1)).within wrap
      let nl ← newline d
      return sig ++ opener layout nl ++ inner ++ nl ++ "\x7d").succeeds =
    (TypeExpr.allowed returns && params.all Param.wellFormed &&
      (compactBody ms (d + 1)).succeeds) := by
  rw [← succeeds_signature d lead, ← succeeds_within (signature _ _ _ _ _) wrap]
  refine succeeds_bind fun p => (succeeds_bind fun inner => succeeds_bind_pure _ _).trans ?_
  rw [succeeds_newline, Bool.and_true, succeeds_within]
  rfl

mutual

/-- **In the plain style, a statement has a text exactly when it is well formed.** -/
theorem succeeds_stmt : ∀ (s : Stmt) (d : Nat), (s.render .standard d).succeeds = s.wellFormed
  | .classDecl head stmts, d => by
    rw [Stmt.render, Stmt.wellFormed, ← succeeds_attrLines d, ← succeeds_members stmts (d + 1)]
    refine succeeds_bind fun attrs => (succeeds_bind fun inner => succeeds_bind_pure _ _).trans ?_
    rw [succeeds_newline, Bool.and_true, succeeds_within]
    rfl
  | .method head none, d => by
    rw [Stmt.render, Stmt.wellFormed, MethodHead.wellFormed]
    by_cases hn : head.name = ""
    · rw [if_pos hn]
      simp [hn]
    · have hname : decide (head.name ≠ "") = true := by simpa using hn
      rw [if_neg hn, hname, Bool.true_and, Bool.and_assoc, ← succeeds_attrLines d]
      refine succeeds_bind fun attrs => (succeeds_bind (b := true) fun p => rfl).trans ?_
      rw [Bool.and_true, succeeds_within, succeeds_signature]
  | .method head (some stmts), d => by
    rw [Stmt.render, Stmt.wellFormed, MethodHead.wellFormed]
    by_cases hn : head.name = ""
    · rw [if_pos hn]
      simp [hn]
    · have hname : decide (head.name ≠ "") = true := by simpa using hn
      rw [if_neg hn, hname, Bool.true_and, Bool.and_assoc, Bool.and_assoc, ← succeeds_attrLines d,
        ← Bool.and_assoc (TypeExpr.allowed _), ← succeeds_members stmts (d + 1)]
      exact succeeds_bind fun attrs => succeeds_callable _ _ _ _ _ _
  | .function head stmts, d => by
    rw [Stmt.render, Stmt.wellFormed, FunctionHead.wellFormed]
    by_cases hn : head.name = ""
    · rw [if_pos hn]
      simp [hn]
    · have hname : decide (head.name ≠ "") = true := by simpa using hn
      rw [if_neg hn, hname, Bool.true_and, Bool.and_assoc, Bool.and_assoc, ← succeeds_attrLines d,
        ← Bool.and_assoc (TypeExpr.allowed _), ← succeeds_members stmts (d + 1)]
      exact succeeds_bind fun attrs => succeeds_callable _ _ _ _ _ _
  | .property decl, d => by rw [Stmt.render, succeeds_property, Stmt.wellFormed]
  | .constants decl, d => by rw [Stmt.render, succeeds_constants, Stmt.wellFormed]
  | .traitUse decl, d => by rw [Stmt.render, succeeds_traitUse, Stmt.wellFormed]
  | .expression _ expr, d => by
    rw [Stmt.render, succeeds_bind_pure, succeeds_exprText, Stmt.wellFormed]
  | .ret _ none, d => by
    rw [Stmt.render, Stmt.wellFormed]
    rfl
  | .ret _ (some x), d => by
    rw [Stmt.render, succeeds_bind_pure, succeeds_expr, Stmt.wellFormed, Expr.allowed]
  | .forLoop head stmts, d => by
    rw [Stmt.render, Stmt.wellFormed, ForHead.wellFormed, ← succeeds_members stmts (d + 1),
      ← succeeds_exprItems d, ← succeeds_exprItems d, ← succeeds_exprItems d, Bool.and_assoc,
      Bool.and_assoc]
    refine succeeds_bind fun init => succeeds_bind fun cond => succeeds_bind fun loop => ?_
    refine (succeeds_bind fun inner => succeeds_bind_pure _ _).trans ?_
    rw [succeeds_newline, Bool.and_true]
    rfl
  | .nop _, d => by
    rw [Stmt.render, Stmt.wellFormed]
    rfl
  | .foreign _ _ _, d => by
    rw [Stmt.render, Stmt.wellFormed]
    rfl

theorem succeeds_members : ∀ (stmts : List (Option Stmt)) (d : Nat),
    (compactBody (members .standard stmts) d).succeeds = Stmt.allWellFormed stmts
  | [], _ => rfl
  | none :: _, _ => rfl
  | some s :: rest, d => by
    have hs : s.isNop = true → (s.render .standard d).succeeds = true := fun h => by
      rw [Stmt.render_of_isNop h]
      rfl
    rw [members, member, succeeds_compactBody_cons rfl _ hs, succeeds_members rest d,
      succeeds_stmt s d, Stmt.allWellFormed, Stmt.present]

end

/-- **In the plain style, an element that is no null pointer has a text exactly when it is well
formed.** -/
theorem succeeds_nodeText {n : Option Node} (hn : ∀ t, n ≠ some (.null t)) (d : Nat) :
    (nodeText .standard n d).succeeds = Node.present n := by
  cases n with
  | none => rfl
  | some n =>
    rw [nodeText, Node.present]
    rcases n with s | x | t | p | p | c | g | a | a | i | t | _
    · exact succeeds_stmt s d
    · exact succeeds_expr x d
    · exact succeeds_type t
    · exact succeeds_param d p
    · exact succeeds_propertyItem d p
    · exact succeeds_constItem d c
    · exact succeeds_attrGroup d g
    · exact succeeds_attribute d a
    · exact succeeds_arg a d
    · exact succeeds_arrayItem i d
    · exact absurd rfl (hn t)
    · rfl

end Statements

/-! ## The verdict -/

theorem isInfix_append_right {p : List Char} {s : String} (h : p <:+: s.toList) (t : String) :
    p <:+: (s ++ t).toList := by
  rw [String.toList_append]
  exact h.trans (List.prefix_append _ _).isInfix

theorem isInfix_append_left {p : List Char} {t : String} (h : p <:+: t.toList) (s : String) :
    p <:+: (s ++ t).toList := by
  rw [String.toList_append]
  exact h.trans (List.suffix_append _ _).isInfix

/-- Every fault of a tree is reported under one heading. -/
theorem TreeError.heading_isInfix_message (c : TreeError) :
    TreeError.heading.toList <:+: c.message.toList := by
  induction c with
  | nothing => exact List.infix_rfl
  | unsupportedNode t | unsupportedExpression t | unsupportedType t =>
    exact isInfix_append_right (isInfix_append_right List.infix_rfl _) _
  | constWithoutValue name =>
    exact isInfix_append_right
      (isInfix_append_right (isInfix_append_right List.infix_rfl _) _) _
  | unknownModifier word => exact isInfix_append_right (isInfix_append_right List.infix_rfl _) _
  | inClass name cause ih | inMethod name cause ih | inFunction name cause ih =>
    exact isInfix_append_left ih _
  | _ => exact isInfix_append_right List.infix_rfl _

/-- **In every style, a list of statements has a text exactly when it is well formed.** -/
theorem succeeds_prettyPrint (style : Style) (stmts : List (Option Stmt)) :
    (prettyPrint style stmts).succeeds = Stmt.allWellFormed stmts := by
  have hm := (essenceStyles style .standard).alike_members stmts fun _ _ => trivial
  rw [prettyPrint, fromMargin, succeeds_bind_pure, ← succeeds_members stmts 0]
  exact (alike_body_compactBody (d := 0) (e := 0) hm style).succeeds_eq

/-- An element in two styles at two depths has a text in both or the same fault in both, unless it
is a null pointer that is read. -/
theorem nodeText_agrees {node : Option Node} (h : Node.isBroken node = false)
    (style style' : Style) (d d' : Nat) :
    Agree (fun _ _ => True) (nodeText style node d).result (nodeText style' node d').result :=
  ((essenceStyles style style').alike_node h (fun _ _ _ _ => trivial) trivial).mono
    fun _ _ _ => trivial

/-- What an element comes to in the plain style at the margin it comes to everywhere. -/
theorem nodeText_ok_iff {node : Option Node} (h : Node.isBroken node = false) (style : Style)
    (d : Nat) : (∃ text, (nodeText style node d).result = .ok text) ↔
      ∃ text, (nodeText .standard node (0 : Nat)).result = .ok text := by
  rw [← succeeds_iff, ← succeeds_iff]
  exact iff_of_eq (congrArg (· = true) (Alike.succeeds_eq (nodeText_agrees h style .standard d 0)))

/-- An element without a text has the same fault in all styles at all depths. -/
theorem exists_fault {node : Option Node} (h : Node.isBroken node = false)
    (hs : (nodeText .standard node (0 : Nat)).succeeds = false) :
    ∃ cause, ∀ (style : Style) (d : Nat),
      (nodeText style node d).result = .error (.malformed cause) := by
  cases hr : (nodeText .standard node (0 : Nat)).result with
  | ok text => rw [succeeds_iff.mpr ⟨text, hr⟩] at hs; cases hs
  | error e =>
    obtain ⟨c, rfl⟩ := Alike.exists_malformed (nodeText_agrees h .standard .standard 0 0) hr
    refine ⟨c, fun style d => ?_⟩
    have ha := nodeText_agrees h style .standard d 0
    rw [hr] at ha
    generalize (nodeText style node d).result = r at ha ⊢
    cases ha
    rfl

/-- **A null pointer is read through exactly if it is of a type that rendering reads.** -/
theorem nodeText_eq_nullPointer_iff (node : Option Node) (style : Style) (d : Nat) :
    (nodeText style node d).result = .error .nullPointer ↔ Node.isBroken node = true := by
  refine ⟨fun hr => ?_, fun h => result_of_isBroken h style d⟩
  by_contra hn
  have ha := nodeText_agrees (Bool.not_eq_true _ ▸ hn) style style d d
  obtain ⟨c, hc⟩ := Alike.exists_malformed ha hr
  cases hc

theorem isBroken_iff {node : Option Node} : Node.isBroken node = true ↔
    ∃ t : NodeType,
      node = some (.null t) ∧ t ≠ .stmt .classDecl ∧ t ≠ .stmt .nop ∧ t ≠ .bare := by
  unfold Node.isBroken NodeType.isRead
  split
  · split <;> simp_all
  · simp_all

theorem succeeds_nullText (t : NodeType) : t.nullText.succeeds = decide (t = .stmt .nop) := by
  cases t with
  | stmt s => cases s <;> rfl
  | _ => rfl

/-- In the plain style at the margin, an element has a text if it is well formed, and a null
pointer to a statement without code has the empty text. -/
theorem succeeds_nodeText_margin (node : Option Node) :
    (nodeText .standard node (0 : Nat)).succeeds = true ↔
      Node.present node = true ∨ node = some (.null (.stmt .nop)) := by
  by_cases h : ∃ t, node = some (.null t)
  · obtain ⟨t, rfl⟩ := h
    change t.nullText.succeeds = true ↔ false = true ∨ _
    rw [succeeds_nullText]
    simp
  · rw [succeeds_nodeText (fun t ht => h ⟨t, ht⟩)]
    exact ⟨.inl, fun hp => hp.resolve_right fun hn => h ⟨_, hn⟩⟩

/-- An element has a text if it is well formed, or a null pointer to a statement without code. -/
theorem exists_text_iff (node : Option Node) (style : Style) (d : Nat) :
    (∃ text, (nodeText style node d).result = .ok text) ↔
      Node.present node = true ∨ node = some (.null (.stmt .nop)) := by
  cases hb : Node.isBroken node with
  | true =>
    obtain ⟨t, rfl, _, hnop, _⟩ := isBroken_iff.mp hb
    refine iff_of_false ?_ (by simp [Node.present, Node.wellFormed, hnop])
    rintro ⟨text, ht⟩
    rw [result_of_isBroken hb] at ht
    cases ht
  | false =>
    rw [nodeText_ok_iff hb, ← succeeds_iff]
    exact succeeds_nodeText_margin node

/-- **The verdict on a tree depends on the tree alone.** In every style at every depth, an element
is read through a null pointer exactly if it is one, of another type than a class, a statement
without code and bare comments, and it has a text exactly if it is well formed or a null pointer to
a statement without code. So, the null pointers to anything but a class and bare comments apart, it
has a text exactly when it is well formed; and otherwise all styles and depths report the same fault
of the tree. -/
theorem nodeText_verdict (node : Option Node) :
    (∀ (style : Style) (d : Nat), (nodeText style node d).result = .error .nullPointer ↔
      ∃ t : NodeType,
        node = some (.null t) ∧ t ≠ .stmt .classDecl ∧ t ≠ .stmt .nop ∧ t ≠ .bare) ∧
    (∀ (style : Style) (d : Nat), (∃ text, (nodeText style node d).result = .ok text) ↔
      Node.present node = true ∨ node = some (.null (.stmt .nop))) ∧
    ((∀ t, node = some (.null t) → t = .stmt .classDecl ∨ t = .bare) →
      Node.present node = false →
      ∃ cause : TreeError, TreeError.heading.toList <:+: cause.message.toList ∧
        ∀ (style : Style) (d : Nat),
          (nodeText style node d).result = .error (.malformed cause)) := by
  refine ⟨fun style d => (nodeText_eq_nullPointer_iff node style d).trans isBroken_iff,
    exists_text_iff node, fun hnull hp => ?_⟩
  have hb : Node.isBroken node = false := by
    refine Bool.eq_false_iff.mpr fun hb => ?_
    obtain ⟨t, ht, hclass, _, hbare⟩ := isBroken_iff.mp hb
    exact (hnull t ht).elim hclass hbare
  have hs : (nodeText .standard node (0 : Nat)).succeeds = false := by
    refine Bool.eq_false_iff.mpr fun hs => ?_
    rcases (succeeds_nodeText_margin node).mp hs with h | h
    · rw [hp] at h
      cases h
    · rcases hnull _ h with ht | ht
      · cases ht
      · cases ht
  obtain ⟨c, hc⟩ := exists_fault hb hs
  exact ⟨c, c.heading_isInfix_message, hc⟩

/-- A method with a parameter that has no name has one fault, whatever the style and the depth. A
null pointer to a method has none: it is read. -/
theorem nodeText_verdict_nameless_param :
    (∃ cause : TreeError, TreeError.heading.toList <:+: cause.message.toList ∧
      ∀ (style : Style) (d : Nat), (nodeText style (some (.stmt (.classDecl { name := "C" }
        [some (.method { name := "f", params := [{ name := "" }] } none)]))) d).result =
          .error (.malformed cause)) ∧
    ∀ (style : Style) (d : Nat),
      (nodeText style (some (.null (.stmt .method))) d).result = .error .nullPointer := by
  refine ⟨(nodeText_verdict _).2.2 (by simp) rfl, fun style d => ?_⟩
  exact ((nodeText_verdict _).1 style d).mpr ⟨.stmt .method, rfl, by decide, by decide, by decide⟩

end PhpDecl
