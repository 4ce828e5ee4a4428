import Mathlib.Data.List.Forall2
import Mathlib.Tactic.Common
import PhpDecl.Printer.Tree

/-!
# The depth is given back

Between its beginning and its end a use of a printer raises and lowers the depth many times. What
it prints is nevertheless the rendering at the depth it was found at, it never goes below that depth
to ask a style anything, and that depth is what it leaves, also when it fails on the way.

* `Note.AtLeast`: notes that were taken at a depth or deeper;
* `Printer.Stays`: a use of the printer at a depth that does what a rendering does and leaves the
  depth as it is; `Printer.Stays.bind`, `Printer.Stays.nested`, `Printer.Stays.within`: the ways it
  is composed;
* `Printer.ItemStays`, `Printer.MemberStays`: the same of elements at all depths;
* `Printer.stays_decideLayout`, `Printer.stays_paramList`, `Printer.stays_body`: lists and bodies;
* **`Printer.stays_expr`**, **`Printer.stays_stmt`**, **`Printer.stays_optNode`**: trees;
* `Printer.prettyPrint_apply`: printing from the margin, which is where the printer is left.
-/

namespace PhpDecl

/-- The depth that a note tells, if it tells one, is at least `d`. -/
def Note.AtLeast (d : Int) : Note → Prop
  | .askedParams _ _ _ depth => d ≤ depth
  | .askedBody _ depth => d ≤ depth
  | .separated _ depth => d ≤ depth
  | .wrapped _ _ => True

theorem Note.AtLeast.mono {d e : Int} {n : Note} (h : n.AtLeast d) (he : e ≤ d) : n.AtLeast e := by
  cases n with
  | wrapped params column => trivial
  | _ => exact Int.le_trans he h

namespace Printer

variable {α β : Type} {d : Int}

/-! ## Uses that give the depth back -/

theorem bind_apply_ok {x : Printer α} {f : α → Printer β} {r : Run (Except Failure α)} {a : α}
    (h : x d = r) (ha : r.answer = .ok a) :
    (x >>= f) d =
      ⟨r.notes ++ (f a r.depth).notes, (f a r.depth).answer, (f a r.depth).depth⟩ := by
  change andThen x f d = _
  simp only [andThen, h, ha]

theorem bind_apply_error {x : Printer α} {f : α → Printer β} {r : Run (Except Failure α)}
    {e : Failure} (h : x d = r) (he : r.answer = .error e) :
    (x >>= f) d = ⟨r.notes, .error e, r.depth⟩ := by
  change andThen x f d = _
  simp only [andThen, h, he]

/-- At depth `d` the printer does what `y` does, takes its notes at depth `d` or deeper, and is left
at depth `d`. -/
structure Stays (d : Int) (x : Printer α) (y : Traced α) : Prop where
  run : x d = ⟨y.notes, y.result, d⟩
  noted : ∀ n ∈ y.notes, n.AtLeast d

namespace Stays

theorem answer_eq {x : Printer α} {y : Traced α} (h : Stays d x y) : (x d).answer = y.result :=
  congrArg Run.answer h.run

/-- What a use of the printer leaves, whatever it answers. -/
theorem frame {x : Printer α} {y : Traced α} (h : Stays d x y) :
    (x d).depth = d ∧ ∀ n ∈ (x d).notes, n.AtLeast d := by
  rw [h.run]
  exact ⟨rfl, h.noted⟩

theorem lift {y : Traced α} (h : y.notes = []) : Stays d (lift y) y := by
  refine ⟨rfl, ?_⟩
  rw [h]
  exact nofun

theorem pure (a : α) : Stays d (Pure.pure a) (Pure.pure a) := ⟨rfl, nofun⟩

theorem malformed (c : TreeError) : Stays d (malformed c : Printer α) (.malformed c) := lift rfl

/-- **One use after the other**: the second is found at the depth of the first. -/
theorem bind {x : Printer α} {y : Traced α} {f : α → Printer β} {g : α → Traced β}
    (h : Stays d x y) (hf : ∀ a, Stays d (f a) (g a)) : Stays d (x >>= f) (y >>= g) := by
  obtain ⟨notes, result⟩ := y
  cases result with
  | ok a =>
    refine ⟨?_, List.forall_mem_append.mpr ⟨h.noted, (hf a).noted⟩⟩
    rw [bind_apply_ok h.run rfl, (hf a).run]
    rfl
  | error e =>
    refine ⟨?_, h.noted⟩
    rw [bind_apply_error h.run rfl]
    rfl

theorem note_bind {n : Note} {x : Printer β} {y : Traced β} (hx : Stays d x y)
    (hn : n.AtLeast d) : Stays d (note n >>= fun _ => x) (.note n >>= fun _ => y) := by
  refine bind ⟨rfl, fun m hm => ?_⟩ fun _ => hx
  rw [List.mem_singleton.mp hm]
  exact hn

/-- **A level deeper**: the level that was added is taken back, whatever came of it. -/
theorem nested {x : Printer α} {y : Traced α} (h : Stays (d + 1) x y) :
    Stays d (nested x) y := by
  refine ⟨?_, fun n hn => (h.noted n hn).mono (by omega)⟩
  simp only [Printer.nested, deeper, h.run, Int.add_sub_cancel]

theorem within {x : Printer α} {y : Traced α} (h : Stays d x y) (wrap : TreeError → TreeError) :
    Stays d (x.within wrap) (y.within wrap) := by
  obtain ⟨notes, result⟩ := y
  rcases result with (cause | _) | a <;> refine ⟨?_, h.noted⟩ <;> rw [Printer.within, h.run] <;> rfl

/-- What is read off the depth is read off `d`. -/
theorem read_bind {x : Printer α} {a : α} {f : α → Printer β} {y : Traced β}
    (hx : x d = ⟨[], .ok a, d⟩) (h : Stays d (f a) y) : Stays d (x >>= f) y := by
  refine ⟨?_, h.noted⟩
  rw [bind_apply_ok hx rfl, h.run, List.nil_append]

theorem newline : Stays d newline (PhpDecl.newline d) := by
  refine read_bind rfl (lift ?_)
  rw [PhpDecl.newline]
  split_ifs <;> rfl

theorem comments (cs : List Comment) : Stays d (comments cs) (commentText cs d) :=
  newline.bind fun _ => pure _

theorem readComments (cs : Option (List Comment)) :
    Stays d (readComments cs) (PhpDecl.readComments cs) := by
  refine lift ?_
  cases cs <;> rfl

theorem leadingComments (cs : List Comment) :
    Stays d (leadingComments cs) (PhpDecl.leadingComments cs d) := by
  rw [Printer.leadingComments, PhpDecl.leadingComments]
  split_ifs
  · exact pure _
  · refine newline.bind fun nl => ?_
    exact (comments cs).bind fun text => pure _

end Stays

/-! ## Lists -/

/-- Items with the same comments, the first printing the text of the second at every depth. -/
inductive ItemStays : Option Item → Option PhpDecl.Item → Prop
  | missing : ItemStays none none
  | present {i : Item} {j : PhpDecl.Item} (hc : i.comments = j.comments)
      (ht : ∀ d, Stays d i.text (j.text d)) : ItemStays (some i) (some j)

section Lists

variable {is : List (Option Item)} {js : List (Option PhpDecl.Item)}

theorem hasComments_eq (h : List.Forall₂ ItemStays is js) :
    hasComments is = PhpDecl.hasComments js := by
  induction h with
  | nil => rfl
  | cons hij _ ih =>
    rw [hasComments, PhpDecl.hasComments] at ih ⊢
    rw [List.any_cons, List.any_cons, ih]
    cases hij with
    | missing => rfl
    | present hc _ => simp only [hc]

theorem stays_askComments (h : List.Forall₂ ItemStays is js) :
    Stays d (askComments is) (PhpDecl.askComments js) := by
  induction h with
  | nil => exact .pure false
  | cons hij _ ih =>
    cases hij with
    | missing => exact ih
    | @present i j hc _ =>
      rw [askComments, PhpDecl.askComments, hc]
      refine (Stays.readComments j.comments).bind fun cs => ?_
      split_ifs
      · exact ih
      · exact .pure true

theorem isEmpty_eq {γ δ : Type} {R : γ → δ → Prop} {as : List γ} {bs : List δ}
    (h : List.Forall₂ R as bs) : as.isEmpty = bs.isEmpty := by
  cases h <;> rfl

theorem stays_itemText {i : Option Item} {j : Option PhpDecl.Item} (h : ItemStays i j) :
    Stays d (itemText i) (PhpDecl.itemText j d) := by
  cases h with
  | missing => exact .malformed _
  | present _ ht => exact ht d

theorem stays_itemTexts (h : List.Forall₂ ItemStays is js) :
    Stays d (itemTexts is) (PhpDecl.itemTexts js d) := by
  induction h with
  | nil => exact .pure []
  | cons hij _ ih =>
    refine (stays_itemText hij).bind fun s => ?_
    exact ih.bind fun more => .pure _

theorem stays_commaSeparated (h : List.Forall₂ ItemStays is js) :
    Stays d (commaSeparated is) (PhpDecl.commaSeparated js d) :=
  (stays_itemTexts h).bind fun _ => .pure _

theorem stays_itemLines (trailing : Bool) (h : List.Forall₂ ItemStays is js) :
    Stays d (itemLines trailing is) (PhpDecl.itemLines trailing js d) := by
  induction h with
  | nil => exact .pure ""
  | @cons i j is js hij hrest ih =>
    cases hij with
    | missing => exact .malformed _
    | @present i j hc ht =>
      rw [itemLines, PhpDecl.itemLines, hc, isEmpty_eq hrest]
      refine (Stays.readComments j.comments).bind fun cs => ?_
      refine (Stays.leadingComments cs).bind fun above => ?_
      refine (ht d).bind fun text => ?_
      refine Stays.newline.bind fun nl => ?_
      exact ih.bind fun more => .pure _

theorem stays_commaSeparatedMultiline (trailing : Bool) (h : List.Forall₂ ItemStays is js) :
    Stays d (commaSeparatedMultiline is trailing) (PhpDecl.commaSeparatedMultiline js trailing d) :=
  (stays_itemLines trailing h).nested

theorem stays_multilineBlock (trailing : Bool) (h : List.Forall₂ ItemStays is js) :
    Stays d (multilineBlock is trailing) (PhpDecl.multilineBlock js trailing d) := by
  refine (stays_commaSeparatedMultiline trailing h).bind fun text => ?_
  exact Stays.newline.bind fun nl => .pure _

theorem stays_maybeMultiline (trailing : Bool) (h : List.Forall₂ ItemStays is js) :
    Stays d (maybeMultiline is trailing) (PhpDecl.maybeMultiline js trailing d) := by
  rw [maybeMultiline, PhpDecl.maybeMultiline]
  refine (stays_askComments h).bind fun commented => ?_
  split_ifs
  · exact stays_multilineBlock trailing h
  · exact stays_commaSeparated h

theorem stays_split (h : List.Forall₂ ItemStays is js) : Stays d (split is) (PhpDecl.split js d) :=
  stays_multilineBlock true h

theorem stays_decideLayout (h : List.Forall₂ ItemStays is js) (column : Int) :
    Stays d (decideLayout is column) (PhpDecl.decideLayout js column d) := by
  rw [decideLayout, PhpDecl.decideLayout, isEmpty_eq h]
  by_cases hn : js.isEmpty = true
  · rw [if_pos hn, if_pos hn]
    exact .pure _
  rw [if_neg hn, if_neg hn]
  refine (stays_askComments h).bind fun commented => ?_
  split_ifs
  · exact (stays_split h).bind fun text => .pure _
  · refine (stays_commaSeparated h).bind fun single => ?_
    split_ifs
    · exact .pure _
    · exact (stays_split h).bind fun text => .pure _

end Lists

/-! ## Bodies -/

/-- Members that differ in nothing but how they are printed, the first printing the text of the
second at every depth. -/
inductive MemberStays : Option Member → Option PhpDecl.Member → Prop
  | missing : MemberStays none none
  | present {m : Member} {n : PhpDecl.Member} (hc : m.comments = n.comments)
      (hk : m.kind = n.kind) (hnop : m.isNop = n.isNop) (ht : ∀ d, Stays d m.text (n.text d)) :
      MemberStays (some m) (some n)

section Bodies

variable {ms : List (Option Member)} {ns : List (Option PhpDecl.Member)}

theorem separated_eq (h : List.Forall₂ MemberStays ms ns) :
    separated ms = PhpDecl.separated ns := by
  induction h with
  | nil => rfl
  | cons hmn _ ih =>
    rw [separated, PhpDecl.separated] at ih ⊢
    rw [List.any_cons, List.any_cons, ih]
    cases hmn with
    | missing => rfl
    | present _ hk _ _ => simp only [hk]

theorem stays_compactBody (h : List.Forall₂ MemberStays ms ns) :
    Stays d (compactBody ms) (PhpDecl.compactBody ns d) := by
  induction h with
  | nil => exact .pure ""
  | cons hmn _ ih =>
    cases hmn with
    | missing => exact .malformed _
    | @present m n hc hk hnop ht =>
      rw [compactBody, PhpDecl.compactBody, hc, hnop]
      refine (Stays.readComments n.comments).bind fun cs => ?_
      refine (Stays.leadingComments cs).bind fun above => ?_
      split_ifs
      · exact ih.bind fun more => .pure _
      · refine (ht d).bind fun text => ?_
        refine Stays.newline.bind fun nl => ?_
        exact ih.bind fun more => .pure _

theorem stays_memberBlocks (h : List.Forall₂ MemberStays ms ns) :
    Stays d (memberBlocks ms) (PhpDecl.memberBlocks ns d) := by
  induction h with
  | nil => exact .pure []
  | cons hmn _ ih =>
    cases hmn with
    | missing => exact .malformed _
    | @present m n hc hk hnop ht =>
      rw [memberBlocks, PhpDecl.memberBlocks, hc, hnop]
      refine (Stays.readComments n.comments).bind fun cs => ?_
      refine (Stays.leadingComments cs).bind fun above => ?_
      by_cases hn : n.isNop = true
      · rw [if_pos hn, if_pos hn]
        exact ih.bind fun more => .pure _
      · rw [if_neg hn, if_neg hn]
        refine (ht d).bind fun text => ?_
        refine Stays.newline.bind fun nl => ?_
        exact ih.bind fun more => .pure _

theorem stays_splitBody (h : List.Forall₂ MemberStays ms ns) :
    Stays d (splitBody ms) (PhpDecl.splitBody ns d) :=
  (stays_memberBlocks h).bind fun _ => .pure _

end Bodies

/-! ## Styles -/

/-- A parameter list in any style. -/
theorem stays_paramList (style : Style) {is : List (Option Item)}
    {js : List (Option PhpDecl.Item)} (h : List.Forall₂ ItemStays is js) (column tail : Int) :
    Stays d (paramList style is column tail) (style.paramList js column tail d) := by
  induction style with
  | standard =>
    rw [paramList, Style.paramList, hasComments_eq h]
    exact (stays_maybeMultiline true h).bind fun text => .pure _
  | extended next _ =>
    rw [paramList, Style.paramList, isEmpty_eq h, h.length_eq]
    refine (stays_decideLayout h column).bind fun (text, layout) => ?_
    simp only
    split_ifs
    · refine (stays_split h).bind fun text => ?_
      exact Stays.note_bind (.pure _) trivial
    · exact Stays.note_bind (.pure _) trivial
    · exact .pure _
  | recorded inner ih =>
    rw [paramList, Style.paramList, h.length_eq]
    refine Stays.read_bind rfl ?_
    exact Stays.note_bind ih (Int.le_refl d)

/-- A body in any style. -/
theorem stays_body (style : Style) {ms : List (Option Member)}
    {ns : List (Option PhpDecl.Member)} (h : List.Forall₂ MemberStays ms ns) :
    Stays d (body style ms) (style.body ns d) := by
  induction style with
  | standard => exact stays_compactBody h
  | extended next ih =>
    rw [body, Style.body, separated_eq h, h.length_eq]
    split_ifs
    · refine Stays.read_bind rfl ?_
      exact Stays.note_bind (stays_splitBody h) (Int.le_refl d)
    · exact ih
  | recorded inner ih =>
    rw [body, Style.body, h.length_eq]
    refine Stays.read_bind rfl ?_
    exact Stays.note_bind ih (Int.le_refl d)

/-! ## Expressions -/

mutual

theorem stays_expr : ∀ (e : Expr) (d : Int), Stays d (expr e) (e.render d)
  | .variable _ _, _ => by
    rw [expr, Expr.render]
    exact .pure _
  | .string _ _, _ => by
    rw [expr, Expr.render]
    exact .pure _
  | .integer _ _, _ => by
    rw [expr, Expr.render]
    exact .pure _
  | .constant _ _, _ => by
    rw [expr, Expr.render]
    exact .pure _
  | .call _ _ args, _ => by
    rw [expr, Expr.render]
    exact (stays_maybeMultiline false (stays_argItems args)).bind fun list => .pure _
  | .methodCall _ target _ args, d => by
    rw [expr, Expr.render]
    refine (stays_optExpr target d).bind fun object => ?_
    exact (stays_maybeMultiline false (stays_argItems args)).bind fun list => .pure _
  | .fetch _ target _, d => by
    rw [expr, Expr.render]
    exact (stays_optExpr target d).bind fun object => .pure _
  | .assign _ target value, d => by
    rw [expr, Expr.render]
    refine (stays_optExpr target d).bind fun left => ?_
    exact (stays_optExpr value d).bind fun right => .pure _
  | .array _ items, _ => by
    rw [expr, Expr.render]
    exact (stays_maybeMultiline true (stays_arrayItems items)).bind fun list => .pure _
  | .foreign _ _, _ => by
    rw [expr, Expr.render]
    exact .malformed _

theorem stays_optExpr : ∀ (e : Option Expr) (d : Int), Stays d (optExpr e) (exprText e d)
  | none, _ => by
    rw [optExpr, exprText]
    exact .malformed _
  | some e, d => by
    rw [optExpr, exprText]
    exact stays_expr e d

theorem stays_arg : ∀ (a : Arg) (d : Int), Stays d (arg a) (argText a d)
  | .mk _ value _, d => by
    rw [arg, argText]
    exact (stays_optExpr value d).bind fun text => .pure _

theorem stays_arrayItem : ∀ (i : ArrayItem) (d : Int), Stays d (arrayItem i) (arrayItemText i d)
  | .mk _ key value, d => by
    rw [arrayItem, arrayItemText]
    refine (stays_optExpr value d).bind fun text => ?_
    exact (stays_arrayKey key d).bind fun before => .pure _

theorem stays_arrayKey : ∀ (key : Option Expr) (d : Int), Stays d (arrayKey key) (keyText key d)
  | none, _ => by
    rw [arrayKey, keyText]
    exact .pure _
  | some key, d => by
    rw [arrayKey, keyText]
    exact (stays_expr key d).bind fun text => .pure _

theorem stays_argItems : ∀ (args : List Arg),
    List.Forall₂ ItemStays (argItems args) (PhpDecl.argItems args)
  | [] => by
    rw [argItems, PhpDecl.argItems]
    exact .nil
  | a :: rest => by
    rw [argItems, PhpDecl.argItems]
    exact .cons (.present rfl (stays_arg a)) (stays_argItems rest)

theorem stays_arrayItems : ∀ (items : List ArrayItem),
    List.Forall₂ ItemStays (arrayItems items) (PhpDecl.arrayItems items)
  | [] => by
    rw [arrayItems, PhpDecl.arrayItems]
    exact .nil
  | i :: rest => by
    rw [arrayItems, PhpDecl.arrayItems]
    exact .cons (.present rfl (stays_arrayItem i)) (stays_arrayItems rest)

end

/-- Items made of elements that are all there. -/
theorem stays_items {γ : Type} {comments : γ → Option (List Comment)} {text : γ → Printer String}
    {render : γ → Int → Traced String} (h : ∀ c d, Stays d (text c) (render c d)) (cs : List γ) :
    List.Forall₂ ItemStays (cs.map fun c => some ⟨comments c, text c⟩)
      (cs.map fun c => some ⟨comments c, render c⟩) := by
  rw [List.forall₂_map_left_iff, List.forall₂_map_right_iff]
  exact List.forall₂_same.mpr fun c _ => .present rfl (h c)

/-- Items made of elements that may be missing. -/
theorem stays_optItems {γ : Type} {comments : γ → Option (List Comment)} {text : γ → Printer String}
    {render : γ → Int → Traced String} (h : ∀ c d, Stays d (text c) (render c d))
    (cs : List (Option γ)) :
    List.Forall₂ ItemStays (cs.map (·.map fun c => ⟨comments c, text c⟩))
      (cs.map (·.map fun c => ⟨comments c, render c⟩)) := by
  rw [List.forall₂_map_left_iff, List.forall₂_map_right_iff]
  refine List.forall₂_same.mpr fun c _ => ?_
  cases c with
  | none => exact .missing
  | some c => exact .present rfl (h c)

theorem stays_exprItems (es : List (Option Expr)) :
    List.Forall₂ ItemStays (exprItems es) (PhpDecl.exprItems es) :=
  stays_optItems stays_expr es

/-! ## Parts of declarations -/

theorem notes_ofExcept (x : Except TreeError α) : (Traced.ofExcept x).notes = [] := by
  cases x <;> rfl

theorem notes_typeBefore (t : Option TypeExpr) : (typeBefore t).notes = [] := by
  cases t with
  | none => rfl
  | some t =>
    rw [typeBefore]
    cases t.text <;> rfl

theorem notes_returnAfter (t : Option TypeExpr) : (returnAfter t).notes = [] := by
  cases t with
  | none => rfl
  | some t =>
    rw [returnAfter]
    cases t.text <;> rfl

theorem stays_attr (a : Attribute) (d : Int) : Stays d (attr a) (attributeText a d) := by
  rw [attr, attributeText]
  split_ifs
  · exact .pure _
  · exact (stays_maybeMultiline true (stays_argItems a.args)).bind fun args => .pure _

theorem stays_attrGroup (g : AttrGroup) (d : Int) : Stays d (attrGroup g) (attrGroupText g d) :=
  (stays_commaSeparated (stays_items stays_attr g.attrs)).bind fun _ => .pure _

theorem stays_attrLines : ∀ (gs : List AttrGroup) (d : Int),
    Stays d (attrLines gs) (PhpDecl.attrLines gs d)
  | [], _ => .pure ""
  | g :: rest, d => by
    rw [attrLines, PhpDecl.attrLines]
    refine (stays_attrGroup g d).bind fun text => ?_
    refine Stays.newline.bind fun nl => ?_
    exact (stays_attrLines rest d).bind fun more => .pure _

theorem stays_inlineAttrs : ∀ (gs : List AttrGroup) (d : Int),
    Stays d (inlineAttrs gs) (PhpDecl.inlineAttrs gs d)
  | [], _ => .pure ""
  | g :: rest, d => by
    rw [inlineAttrs, PhpDecl.inlineAttrs]
    refine (stays_attrGroup g d).bind fun text => ?_
    exact (stays_inlineAttrs rest d).bind fun more => .pure _

theorem stays_defaultAfter (e : Option Expr) (d : Int) :
    Stays d (defaultAfter e) (PhpDecl.defaultAfter e d) := by
  cases e with
  | none => exact .pure _
  | some e => exact (stays_expr e d).bind fun text => .pure _

theorem stays_param (p : Param) (d : Int) : Stays d (param p) (paramText p d) := by
  rw [param, paramText]
  by_cases hname : p.name = ""
  · rw [if_pos hname, if_pos hname]
    exact .malformed _
  · rw [if_neg hname, if_neg hname]
    refine (stays_inlineAttrs p.attrGroups d).bind fun attrs => ?_
    refine (Stays.lift (notes_typeBefore p.type)).bind fun type => ?_
    exact (stays_defaultAfter p.default d).bind fun default => .pure _

theorem stays_propertyItem (p : PropertyItem) (d : Int) :
    Stays d (propertyItem p) (propertyItemText p d) :=
  (stays_defaultAfter p.default d).bind fun _ => .pure _

theorem stays_constItem (c : ConstItem) (d : Int) : Stays d (constItem c) (constItemText c d) := by
  rw [constItem, constItemText]
  cases c.value with
  | none => exact .malformed _
  | some e => exact (stays_expr e d).bind fun text => .pure _

theorem stays_property (p : Property) (d : Int) : Stays d (property p) (propertyText p d) := by
  rw [property, propertyText]
  by_cases hitems : p.items.isEmpty = true
  · rw [if_pos hitems, if_pos hitems]
    exact .malformed _
  · rw [if_neg hitems, if_neg hitems]
    refine (stays_attrLines p.attrGroups d).bind fun attrs => ?_
    refine (Stays.lift (notes_typeBefore p.type)).bind fun type => ?_
    exact (stays_commaSeparated (stays_items stays_propertyItem p.items)).bind fun items => .pure _

theorem stays_constants (c : Constants) (d : Int) : Stays d (constants c) (constantsText c d) := by
  rw [constants, constantsText]
  split_ifs
  · exact .malformed _
  · refine (stays_attrLines c.attrGroups d).bind fun attrs => ?_
    exact (stays_commaSeparated (stays_items stays_constItem c.items)).bind fun items => .pure _

theorem stays_signature (style : Style) (lead : String) (params : List Param)
    (returns : Option TypeExpr) (d : Int) :
    Stays d (signature style lead params returns)
      (PhpDecl.signature style lead params returns d) := by
  rw [signature, PhpDecl.signature]
  refine (Stays.lift (notes_returnAfter returns)).bind fun ret => ?_
  refine Stays.read_bind rfl ?_
  refine (stays_paramList style (stays_items stays_param params) _ _).bind fun (list, layout) => ?_
  exact .pure _

/-! ## Statements -/

mutual

/-- **Any statement in any style.** -/
theorem stays_stmt (style : Style) : ∀ (s : Stmt) (d : Int),
    Stays d (stmt style s) (s.render style d)
  | .classDecl head stmts, d => by
    rw [stmt, Stmt.render]
    refine (stays_attrLines head.attrGroups d).bind fun attrs => ?_
    have hbody := stays_body (d := d + 1) style (stays_members style stmts)
    refine (hbody.nested.within _).bind fun inner => ?_
    exact Stays.newline.bind fun nl => .pure _
  | .method head none, d => by
    rw [stmt, Stmt.render]
    split_ifs
    · exact .malformed _
    · refine (stays_attrLines head.attrGroups d).bind fun attrs => ?_
      have hsig := stays_signature style
        (attrs ++ head.flags.text ++ "function " ++ refMark head.byRef ++ head.name) head.params
        head.returns d
      exact (hsig.within _).bind fun (sig, layout) => .pure _
  | .method head (some stmts), d => by
    rw [stmt, Stmt.render]
    split_ifs
    · exact .malformed _
    · refine (stays_attrLines head.attrGroups d).bind fun attrs => ?_
      have hsig := stays_signature style
        (attrs ++ head.flags.text ++ "function " ++ refMark head.byRef ++ head.name) head.params
        head.returns d
      have hbody := stays_body (d := d + 1) style (stays_members style stmts)
      refine (hsig.within _).bind fun (sig, layout) => ?_
      refine (hbody.nested.within _).bind fun inner => ?_
      exact Stays.newline.bind fun nl => .pure _
  | .function head stmts, d => by
    rw [stmt, Stmt.render]
    split_ifs
    · exact .malformed _
    · refine (stays_attrLines head.attrGroups d).bind fun attrs => ?_
      have hsig := stays_signature style (attrs ++ "function " ++ refMark head.byRef ++ head.name)
        head.params head.returns d
      have hbody := stays_body (d := d + 1) style (stays_members style stmts)
      refine (hsig.within _).bind fun (sig, layout) => ?_
      refine (hbody.nested.within _).bind fun inner => ?_
      exact Stays.newline.bind fun nl => .pure _
  | .property decl, d => by
    rw [stmt, Stmt.render]
    exact stays_property decl d
  | .constants decl, d => by
    rw [stmt, Stmt.render]
    exact stays_constants decl d
  | .traitUse decl, _ => by
    rw [stmt, Stmt.render]
    refine .lift ?_
    rw [traitUseText]
    split_ifs <;> rfl
  | .expression _ e, d => by
    rw [stmt, Stmt.render]
    exact (stays_optExpr e d).bind fun text => .pure _
  | .ret _ none, _ => by
    rw [stmt, Stmt.render]
    exact .pure _
  | .ret _ (some e), d => by
    rw [stmt, Stmt.render]
    exact (stays_expr e d).bind fun text => .pure _
  | .forLoop head stmts, d => by
    rw [stmt, Stmt.render]
    refine (stays_commaSeparated (stays_exprItems head.init)).bind fun init => ?_
    refine (stays_commaSeparated (stays_exprItems head.cond)).bind fun cond => ?_
    refine (stays_commaSeparated (stays_exprItems head.loop)).bind fun loop => ?_
    have hbody := stays_body (d := d + 1) style (stays_members style stmts)
    refine hbody.nested.bind fun inner => ?_
    exact Stays.newline.bind fun nl => .pure _
  | .nop _, _ => by
    rw [stmt, Stmt.render]
    exact .pure _
  | .foreign _ _ _, _ => by
    rw [stmt, Stmt.render]
    exact .malformed _

theorem stays_members (style : Style) : ∀ (stmts : List (Option Stmt)),
    List.Forall₂ MemberStays (members style stmts) (PhpDecl.members style stmts)
  | [] => by
    rw [members, PhpDecl.members]
    exact .nil
  | s :: rest => by
    rw [members, PhpDecl.members]
    exact .cons (stays_member style s) (stays_members style rest)

theorem stays_member (style : Style) : ∀ (s : Option Stmt),
    MemberStays (member style s) (PhpDecl.member style s)
  | none => by
    rw [member, PhpDecl.member]
    exact .missing
  | some s => by
    rw [member, PhpDecl.member]
    exact .present rfl rfl rfl (stays_stmt style s)

end

/-! ## Any element -/

theorem notes_nullText (t : NodeType) : t.nullText.notes = [] := by
  unfold NodeType.nullText
  split <;> rfl

theorem stays_node (style : Style) (n : Node) (d : Int) :
    Stays d (node style n) (n.render style d) := by
  match n with
  | .stmt s => exact stays_stmt style s d
  | .expr e => exact stays_expr e d
  | .type t => exact .lift (notes_ofExcept _)
  | .param p => exact stays_param p d
  | .propertyItem p => exact stays_propertyItem p d
  | .constItem c => exact stays_constItem c d
  | .attrGroup g => exact stays_attrGroup g d
  | .attribute a => exact stays_attr a d
  | .arg a => exact stays_arg a d
  | .arrayItem i => exact stays_arrayItem i d
  | .null t => exact .lift (notes_nullText t)
  | .foreign _ _ => exact .malformed _

/-- **Any element in any style.** -/
theorem stays_optNode (style : Style) (n : Option Node) (d : Int) :
    Stays d (optNode style n) (nodeText style n d) := by
  cases n with
  | none => exact .malformed _
  | some n => exact stays_node style n d

theorem stays_nodeItems (style : Style) (nodes : List (Option Node)) :
    List.Forall₂ ItemStays (nodeItems style nodes) (PhpDecl.nodeItems style nodes) :=
  stays_optItems (stays_node style) nodes

theorem stays_pointerMembers (style : Style) (stmts : List (Option StmtPointer)) :
    List.Forall₂ MemberStays (pointerMembers style stmts)
      (PhpDecl.pointerMembers style stmts) := by
  rw [pointerMembers, PhpDecl.pointerMembers, List.forall₂_map_left_iff,
    List.forall₂_map_right_iff]
  refine List.forall₂_same.mpr fun s _ => ?_
  match s with
  | none => exact .missing
  | some (.stmt s) => exact .present rfl rfl rfl (stays_stmt style s)
  | some (.null t) => exact .present rfl rfl rfl fun _ => .lift (notes_nullText _)

/-- A list of statements at the margin, without white space in front. -/
theorem stays_margin (style : Style) (stmts : List (Option StmtPointer)) :
    Stays 0 (do
      let text ← body style (pointerMembers style stmts)
      return String.ofList (text.toList.dropWhile isMargin))
      (fromMargin style (PhpDecl.pointerMembers style stmts)) :=
  (stays_body style (stays_pointerMembers style stmts)).bind fun _ => .pure _

/-- **Printing from the margin** does not depend on the depth the printer is found at, and leaves
the printer at the margin. -/
theorem prettyPrint_apply (style : Style) (stmts : List (Option StmtPointer)) (d : Int) :
    prettyPrint style stmts d =
      ⟨(fromMargin style (PhpDecl.pointerMembers style stmts)).notes,
        (fromMargin style (PhpDecl.pointerMembers style stmts)).result, 0⟩ := by
  have hreset : reset d = ⟨[], .ok (), 0⟩ := rfl
  rw [prettyPrint, bind_apply_ok hreset rfl, (stays_margin style stmts).run]
  rfl

end Printer

end PhpDecl
