import Mathlib.Data.List.Forall2
import Mathlib.Tactic.Common
import PhpDecl.Proofs.Layouts
import PhpDecl.Proofs.Plain
import PhpDecl.Proofs.Texts
import PhpDecl.Render.Node

/-!
# Comparing two renderings of one tree

A likeness says which texts are taken for the same and at which pairs of depths. Whatever passes
through fixed words, names, literals, line breaks, comments and concatenation passes through
everything that does not depend on a style: the two renderings succeed together with like texts, or
fail on the same fault.

* `Likeness`: like texts, with what they are closed under;
* `Likeness.ItemAlike`: items with like texts;
* `Likeness.alike_commaSeparated`, `Likeness.alike_multilineBlock`, `Likeness.alike_maybeMultiline`:
  lists written the same way;
* **`Likeness.alike_expr`**, **`Likeness.alike_param`** and their companions: expressions and parts
  of declarations at two depths.
-/

namespace PhpDecl

open Traced

/-- Texts taken for the same in two renderings. The leaves are the names and string values for
which that has been made sure. -/
structure Likeness where
  Depths : Nat → Nat → Prop
  Leaf : String → Prop
  Texts : String → String → Prop
  deeper {d e : Nat} : Depths d e → Depths (d + 1) (e + 1)
  append {a b a' b' : String} : Texts a a' → Texts b b' → Texts (a ++ b) (a' ++ b')
  plain {s : String} : Text.Plain s → Texts s s
  leaf {s : String} : Leaf s → Texts s s
  literal {s : String} : Leaf s → Texts (Text.literal s) (Text.literal s)
  breaks {d e : Nat} : Depths d e → Texts (lineBreak d) (lineBreak e)
  comments {d e : Nat} (cs : List Comment) : Depths d e →
    Texts (commentLines cs d) (commentLines cs e)

namespace Likeness

variable (L : Likeness) {d e : Nat}

theorem intercalate {sep : String} {as bs : List String} (hs : Text.Plain sep)
    (h : List.Forall₂ L.Texts as bs) : L.Texts (sep.intercalate as) (sep.intercalate bs) := by
  induction h with
  | nil =>
    rw [String.intercalate_nil]
    exact L.plain (by decide)
  | cons hab hrest ih =>
    cases hrest with
    | nil =>
      rw [String.intercalate_singleton, String.intercalate_singleton]
      exact hab
    | cons hab' hrest =>
      rw [String.intercalate_cons_cons, String.intercalate_cons_cons]
      exact L.append (L.append hab (L.plain hs)) ih

theorem intercalate_leaves {sep : String} {names : List String} (hs : Text.Plain sep)
    (h : ∀ s ∈ names, L.Leaf s) : L.Texts (sep.intercalate names) (sep.intercalate names) :=
  L.intercalate hs (List.forall₂_same.mpr fun s hm => L.leaf (h s hm))

theorem alike_newline (h : L.Depths d e) : Alike L.Texts (newline d) (newline e) := by
  rw [newline_natCast, newline_natCast]
  exact .pure (L.breaks h)

theorem alike_leadingComments (cs : List Comment) (h : L.Depths d e) :
    Alike L.Texts (leadingComments cs d) (leadingComments cs e) := by
  unfold Alike
  rw [result_leadingComments, result_leadingComments]
  exact .ok (L.comments cs h)

/-! ## Lists -/

section Lists

/-- Two items with the same comments, which can be read, and like texts, or both missing. -/
inductive ItemAlike : Option Item → Option Item → Prop
  | missing : ItemAlike none none
  | present {i j : Item} {cs : List Comment} (left : i.comments = some cs)
    (right : j.comments = some cs)
    (text : ∀ {d e : Nat}, L.Depths d e → Alike L.Texts (i.text d) (j.text e)) :
    ItemAlike (some i) (some j)

variable {L} {is js : List (Option Item)}

theorem hasComments_eq (h : List.Forall₂ L.ItemAlike is js) : hasComments is = hasComments js := by
  induction h with
  | nil => rfl
  | cons hij _ ih =>
    unfold hasComments at ih ⊢
    rw [List.any_cons, List.any_cons, ih]
    cases hij with
    | missing => rfl
    | present hi hj _ => simp only [hi, hj]

theorem readable_of_alike (h : List.Forall₂ L.ItemAlike is js) : Readable is ∧ Readable js := by
  induction h with
  | nil => exact ⟨readable_nil, readable_nil⟩
  | cons hij _ ih =>
    cases hij with
    | missing => exact ⟨ih.1.cons_none, ih.2.cons_none⟩
    | present hi hj _ => exact ⟨ih.1.cons_some hi, ih.2.cons_some hj⟩

theorem alike_itemText {i j : Option Item} (h : L.ItemAlike i j) (hd : L.Depths d e) :
    Alike L.Texts (itemText i d) (itemText j e) := by
  cases h with
  | missing => exact .malformed _
  | present _ _ ht => exact ht hd

theorem alike_itemTexts (h : List.Forall₂ L.ItemAlike is js) (hd : L.Depths d e) :
    Alike (List.Forall₂ L.Texts) (itemTexts is d) (itemTexts js e) := by
  induction h with
  | nil => exact .pure .nil
  | cons hij _ ih =>
    refine (alike_itemText hij hd).bind fun s t hst => ?_
    exact ih.bind fun ss ts hrest => .pure (.cons hst hrest)

theorem alike_commaSeparated (h : List.Forall₂ L.ItemAlike is js) (hd : L.Depths d e) :
    Alike L.Texts (commaSeparated is d) (commaSeparated js e) :=
  (alike_itemTexts h hd).bind fun _ _ hp => .pure (L.intercalate (by decide) hp)

theorem alike_itemLines (trailing : Bool) (h : List.Forall₂ L.ItemAlike is js)
    (hd : L.Depths d e) : Alike L.Texts (itemLines trailing is d) (itemLines trailing js e) := by
  induction h with
  | nil => exact .pure (L.plain (by decide))
  | @cons i j is js hij hrest ih =>
    cases hij with
    | missing => exact .malformed _
    | @present i j cs hi hj ht =>
      have he : is.isEmpty = js.isEmpty := by
        cases hrest <;> rfl
      rw [itemLines, itemLines, hi, hj, he, readComments_some_bind, readComments_some_bind]
      refine (L.alike_leadingComments cs hd).bind fun a a' ha => ?_
      refine (ht hd).bind fun t t' htext => ?_
      refine (L.alike_newline hd).bind fun n n' hn => ?_
      refine ih.bind fun m m' hm => .pure ?_
      refine L.append (L.append (L.append (L.append ha hn) htext) (L.plain ?_)) hm
      split_ifs <;> decide

theorem alike_multilineBlock (trailing : Bool) (h : List.Forall₂ L.ItemAlike is js)
    (hd : L.Depths d e) :
    Alike L.Texts (multilineBlock is trailing d) (multilineBlock js trailing e) := by
  refine (alike_itemLines trailing h (L.deeper hd)).bind fun a b hab => ?_
  exact (L.alike_newline hd).bind fun n n' hn => .pure (L.append hab hn)

theorem alike_maybeMultiline (trailing : Bool) (h : List.Forall₂ L.ItemAlike is js)
    (hd : L.Depths d e) :
    Alike L.Texts (maybeMultiline is trailing d) (maybeMultiline js trailing e) := by
  rw [maybeMultiline_of_readable (readable_of_alike h).1,
    maybeMultiline_of_readable (readable_of_alike h).2, hasComments_eq h]
  split_ifs
  · exact alike_multilineBlock trailing h hd
  · exact alike_commaSeparated h hd

end Lists

/-! ## Types and expressions -/

mutual

theorem like_text : ∀ (t : TypeExpr) {s : String}, (∀ n ∈ t.texts, L.Leaf n) → t.text = .ok s →
    L.Texts s s
  | .named _ name, s, hl, h => by
    cases h
    exact L.leaf (hl _ (by simp [TypeExpr.texts]))
  | .nullable _ inner, s, hl, h => by
    rw [TypeExpr.text] at h
    cases hi : TypeExpr.partText inner with
    | error c => rw [hi] at h; cases h
    | ok r =>
      rw [hi] at h
      cases h
      exact L.append (L.plain (by decide)) (like_partText inner hl hi)
  | .union _ parts, s, hl, h => by
    rw [TypeExpr.text] at h
    cases hi : TypeExpr.partTexts parts with
    | error c => rw [hi] at h; cases h
    | ok rs =>
      rw [hi] at h
      cases h
      exact L.intercalate (by decide) (like_partTexts parts hl hi)

theorem like_partText : ∀ (t : Option TypeExpr) {s : String},
    (∀ n ∈ TypeExpr.optTexts t, L.Leaf n) → TypeExpr.partText t = .ok s → L.Texts s s
  | some t, _, hl, h => like_text t hl h

theorem like_partTexts : ∀ (ts : List (Option TypeExpr)) {ss : List String},
    (∀ n ∈ TypeExpr.listTexts ts, L.Leaf n) → TypeExpr.partTexts ts = .ok ss →
      List.Forall₂ L.Texts ss ss
  | [], ss, _, h => by
    cases h
    exact .nil
  | t :: ts, ss, hl, h => by
    rw [TypeExpr.listTexts, List.forall_mem_append] at hl
    rw [TypeExpr.partTexts] at h
    cases hi : TypeExpr.partText t with
    | error c => rw [hi] at h; cases h
    | ok s =>
      rw [hi] at h
      cases hr : TypeExpr.partTexts ts with
      | error c => rw [hr] at h; cases h
      | ok rest =>
        rw [hr] at h
        cases h
        exact .cons (like_partText t hl.1 hi) (like_partTexts ts hl.2 hr)

end

theorem alike_type (t : TypeExpr) (hl : ∀ n ∈ t.texts, L.Leaf n) :
    Alike L.Texts (ofExcept t.text) (ofExcept t.text) := by
  cases h : t.text with
  | error c => exact .malformed c
  | ok s => exact .pure (L.like_text t hl h)

mutual

/-- **An expression at two depths.** -/
theorem alike_expr : ∀ (x : Expr), (∀ s ∈ x.texts, L.Leaf s) → ∀ {d e : Nat}, L.Depths d e →
    Alike L.Texts (x.render d) (x.render e)
  | .variable _ name, hl, _, _, _ =>
    .pure (L.append (L.plain (by decide)) (L.leaf (hl name (by simp [Expr.texts]))))
  | .string _ value, hl, _, _, _ => .pure (L.literal (hl value (by simp [Expr.texts])))
  | .integer _ value, _, _, _, _ => .pure (L.plain (Text.plain_intRepr value))
  | .constant _ name, hl, _, _, _ => .pure (L.leaf (hl name (by simp [Expr.texts])))
  | .call _ name args, hl, _, _, hd => by
    rw [Expr.texts, List.forall_mem_cons] at hl
    rw [Expr.render, Expr.render]
    refine (alike_maybeMultiline false (alike_args args hl.2) hd).bind fun a b hab => .pure ?_
    exact L.append (L.append (L.append (L.leaf hl.1) (L.plain (by decide))) hab)
      (L.plain (by decide))
  | .methodCall _ target name args, hl, _, _, hd => by
    rw [Expr.texts, List.forall_mem_append, List.forall_mem_cons] at hl
    rw [Expr.render, Expr.render]
    refine (alike_exprText target hl.1 hd).bind fun o o' ho => ?_
    refine (alike_maybeMultiline false (alike_args args hl.2.2) hd).bind fun a b hab => .pure ?_
    have hn : L.Texts (o ++ "->" ++ name) (o' ++ "->" ++ name) :=
      L.append (L.append ho (L.plain (by decide))) (L.leaf hl.2.1)
    exact L.append (L.append (L.append hn (L.plain (by decide))) hab) (L.plain (by decide))
  | .fetch _ target name, hl, _, _, hd => by
    rw [Expr.texts, List.forall_mem_append] at hl
    rw [Expr.render, Expr.render]
    refine (alike_exprText target hl.1 hd).bind fun o o' ho => .pure ?_
    exact L.append (L.append ho (L.plain (by decide))) (L.leaf (hl.2 name (by simp)))
  | .assign _ target value, hl, _, _, hd => by
    rw [Expr.texts, List.forall_mem_append] at hl
    rw [Expr.render, Expr.render]
    refine (alike_exprText target hl.1 hd).bind fun a a' ha => ?_
    refine (alike_exprText value hl.2 hd).bind fun b b' hb => .pure ?_
    exact L.append (L.append ha (L.plain (by decide))) hb
  | .array _ items, hl, _, _, hd => by
    rw [Expr.texts] at hl
    rw [Expr.render, Expr.render]
    refine (alike_maybeMultiline true (alike_arrayItems items hl) hd).bind fun a b hab => .pure ?_
    exact L.append (L.append (L.plain (by decide)) hab) (L.plain (by decide))
  | .foreign _ _, _, _, _, _ => .malformed _

theorem alike_exprText : ∀ (x : Option Expr), (∀ s ∈ Expr.optTexts x, L.Leaf s) →
    ∀ {d e : Nat}, L.Depths d e → Alike L.Texts (exprText x d) (exprText x e)
  | none, _, _, _, _ => .malformed _
  | some x, hl, _, _, hd => alike_expr x hl hd

theorem alike_args : ∀ (args : List Arg), (∀ s ∈ Arg.listTexts args, L.Leaf s) →
    List.Forall₂ L.ItemAlike (argItems args) (argItems args)
  | [], _ => .nil
  | a :: rest, hl => by
    rw [Arg.listTexts, List.forall_mem_append] at hl
    exact .cons (.present rfl rfl (alike_arg a hl.1)) (alike_args rest hl.2)

theorem alike_arg : ∀ (a : Arg), (∀ s ∈ a.texts, L.Leaf s) → ∀ {d e : Nat}, L.Depths d e →
    Alike L.Texts (argText a d) (argText a e)
  | .mk _ value unpack, hl, _, _, hd => by
    rw [argText, argText]
    refine (alike_exprText value hl hd).bind fun a b hab => .pure ?_
    split_ifs
    · exact L.append (L.plain (by decide)) hab
    · exact hab

theorem alike_arrayItems : ∀ (items : List ArrayItem),
    (∀ s ∈ ArrayItem.listTexts items, L.Leaf s) →
      List.Forall₂ L.ItemAlike (arrayItems items) (arrayItems items)
  | [], _ => .nil
  | i :: rest, hl => by
    rw [ArrayItem.listTexts, List.forall_mem_append] at hl
    exact .cons (.present rfl rfl (alike_arrayItem i hl.1)) (alike_arrayItems rest hl.2)

theorem alike_arrayItem : ∀ (i : ArrayItem), (∀ s ∈ i.texts, L.Leaf s) → ∀ {d e : Nat},
    L.Depths d e → Alike L.Texts (arrayItemText i d) (arrayItemText i e)
  | .mk _ key value, hl, _, _, hd => by
    rw [ArrayItem.texts, List.forall_mem_append] at hl
    rw [arrayItemText, arrayItemText]
    refine (alike_exprText value hl.2 hd).bind fun a b hab => ?_
    exact (alike_key key hl.1 hd).bind fun k k' hk => .pure (L.append hk hab)

theorem alike_key : ∀ (key : Option Expr), (∀ s ∈ Expr.optTexts key, L.Leaf s) →
    ∀ {d e : Nat}, L.Depths d e → Alike L.Texts (keyText key d) (keyText key e)
  | none, _, _, _, _ => .pure (L.plain (by decide))
  | some x, hl, _, _, hd => by
    rw [keyText, keyText]
    exact (alike_expr x hl hd).bind fun a b hab => .pure (L.append hab (L.plain (by decide)))

end

theorem leaf_of_flatMap {α : Type} {xs : List α} {f : α → List String}
    (hl : ∀ s ∈ xs.flatMap f, L.Leaf s) {x : α} (hx : x ∈ xs) : ∀ s ∈ f x, L.Leaf s :=
  fun s hs => hl s (List.mem_flatMap.mpr ⟨x, hx, hs⟩)

/-! ## Parts of declarations -/

section Parts

theorem alike_items {α : Type} {xs : List α} {cs : α → List Comment}
    {text : α → Int → Traced String}
    (h : ∀ x ∈ xs, ∀ {d e : Nat}, L.Depths d e → Alike L.Texts (text x d) (text x e)) :
    List.Forall₂ L.ItemAlike (xs.map fun x => some ⟨some (cs x), text x⟩)
      (xs.map fun x => some ⟨some (cs x), text x⟩) := by
  induction xs with
  | nil => exact .nil
  | cons x xs ih =>
    exact .cons (.present rfl rfl (h x List.mem_cons_self))
      (ih fun y hy => h y (List.mem_cons_of_mem x hy))

theorem alike_exprItems (es : List (Option Expr))
    (hl : ∀ s ∈ es.flatMap Expr.optTexts, L.Leaf s) :
    List.Forall₂ L.ItemAlike (exprItems es) (exprItems es) := by
  induction es with
  | nil => exact .nil
  | cons x es ih =>
    rw [List.flatMap_cons, List.forall_mem_append] at hl
    refine .cons ?_ (ih hl.2)
    cases x with
    | none => exact .missing
    | some x => exact .present rfl rfl (L.alike_expr x hl.1)

theorem alike_attribute (a : Attribute) (hl : ∀ s ∈ a.texts, L.Leaf s) (hd : L.Depths d e) :
    Alike L.Texts (attributeText a d) (attributeText a e) := by
  rw [Attribute.texts, List.forall_mem_cons] at hl
  rw [attributeText, attributeText]
  split_ifs
  · exact .pure (L.leaf hl.1)
  · refine (alike_maybeMultiline true (L.alike_args a.args hl.2) hd).bind fun x y hxy => .pure ?_
    exact L.append (L.append (L.append (L.leaf hl.1) (L.plain (by decide))) hxy)
      (L.plain (by decide))

theorem alike_attrGroup (g : AttrGroup) (hl : ∀ s ∈ g.texts, L.Leaf s) (hd : L.Depths d e) :
    Alike L.Texts (attrGroupText g d) (attrGroupText g e) := by
  have hi : List.Forall₂ L.ItemAlike (g.attrs.map fun a => some ⟨some a.comments, attributeText a⟩)
      (g.attrs.map fun a => some ⟨some a.comments, attributeText a⟩) :=
    L.alike_items fun a ha _ _ => L.alike_attribute a (L.leaf_of_flatMap hl ha)
  refine (alike_commaSeparated hi hd).bind fun x y hxy => .pure ?_
  exact L.append (L.append (L.plain (by decide)) hxy) (L.plain (by decide))

theorem alike_attrLines (gs : List AttrGroup) (hl : ∀ s ∈ gs.flatMap AttrGroup.texts, L.Leaf s)
    (hd : L.Depths d e) : Alike L.Texts (attrLines gs d) (attrLines gs e) := by
  induction gs with
  | nil => exact .pure (L.plain (by decide))
  | cons g gs ih =>
    rw [List.flatMap_cons, List.forall_mem_append] at hl
    rw [attrLines, attrLines]
    refine (L.alike_attrGroup g hl.1 hd).bind fun x y hxy => ?_
    refine (L.alike_newline hd).bind fun n n' hn => ?_
    exact (ih hl.2).bind fun m m' hm => .pure (L.append (L.append hxy hn) hm)

theorem alike_inlineAttrs (gs : List AttrGroup)
    (hl : ∀ s ∈ gs.flatMap AttrGroup.texts, L.Leaf s) (hd : L.Depths d e) :
    Alike L.Texts (inlineAttrs gs d) (inlineAttrs gs e) := by
  induction gs with
  | nil => exact .pure (L.plain (by decide))
  | cons g gs ih =>
    rw [List.flatMap_cons, List.forall_mem_append] at hl
    rw [inlineAttrs, inlineAttrs]
    refine (L.alike_attrGroup g hl.1 hd).bind fun x y hxy => ?_
    refine (ih hl.2).bind fun m m' hm => .pure ?_
    exact L.append (L.append hxy (L.plain (by decide))) hm

theorem alike_typeBefore (t : Option TypeExpr) (hl : ∀ s ∈ TypeExpr.optTexts t, L.Leaf s) :
    Alike L.Texts (typeBefore t) (typeBefore t) := by
  cases t with
  | none => exact .pure (L.plain (by decide))
  | some t =>
    exact (L.alike_type t hl).bind fun a b hab => .pure (L.append hab (L.plain (by decide)))

theorem alike_returnAfter (t : Option TypeExpr) (hl : ∀ s ∈ TypeExpr.optTexts t, L.Leaf s) :
    Alike L.Texts (returnAfter t) (returnAfter t) := by
  cases t with
  | none => exact .pure (L.plain (by decide))
  | some t =>
    exact (L.alike_type t hl).bind fun a b hab => .pure (L.append (L.plain (by decide)) hab)

theorem alike_defaultAfter (x : Option Expr) (hl : ∀ s ∈ Expr.optTexts x, L.Leaf s)
    (hd : L.Depths d e) : Alike L.Texts (defaultAfter x d) (defaultAfter x e) := by
  cases x with
  | none => exact .pure (L.plain (by decide))
  | some x =>
    exact (L.alike_expr x hl hd).bind fun a b hab => .pure (L.append (L.plain (by decide)) hab)

theorem plain_refMark (byRef : Bool) : Text.Plain (refMark byRef) := by
  cases byRef <;> decide

/-- **A parameter at two depths.** -/
theorem alike_param (p : Param) (hl : ∀ s ∈ p.texts, L.Leaf s) (hd : L.Depths d e) :
    Alike L.Texts (paramText p d) (paramText p e) := by
  simp only [Param.texts, List.cons_append, List.forall_mem_cons, List.forall_mem_append] at hl
  obtain ⟨hname, ⟨htype, hdefault⟩, hattrs⟩ := hl
  rw [paramText, paramText]
  by_cases hn : p.name = ""
  · rw [if_pos hn, if_pos hn]
    exact .malformed _
  · rw [if_neg hn, if_neg hn]
    refine (L.alike_inlineAttrs p.attrGroups hattrs hd).bind fun a a' ha => ?_
    refine (L.alike_typeBefore p.type htype).bind fun t t' ht => ?_
    refine (L.alike_defaultAfter p.default hdefault hd).bind fun x x' hx => .pure ?_
    have hv : Text.Plain (if p.variadic then "..." else "") := by
      split_ifs <;> decide
    have h1 := L.append (L.append (L.append ha (L.plain p.flags.plain_text)) ht)
      (L.plain (plain_refMark p.byRef))
    have h2 := L.append (L.append (L.append h1 (L.plain hv)) (L.plain (s := "$") (by decide)))
      (L.leaf hname)
    exact L.append h2 hx

theorem alike_paramItems (ps : List Param) (hl : ∀ s ∈ ps.flatMap Param.texts, L.Leaf s) :
    List.Forall₂ L.ItemAlike (paramItems ps) (paramItems ps) :=
  L.alike_items fun p hp _ _ => L.alike_param p (L.leaf_of_flatMap hl hp)

theorem alike_propertyItem (p : PropertyItem) (hl : ∀ s ∈ p.texts, L.Leaf s)
    (hd : L.Depths d e) : Alike L.Texts (propertyItemText p d) (propertyItemText p e) := by
  rw [PropertyItem.texts, List.forall_mem_cons] at hl
  refine (L.alike_defaultAfter p.default hl.2 hd).bind fun x y hxy => .pure ?_
  exact L.append (L.append (L.plain (by decide)) (L.leaf hl.1)) hxy

theorem alike_constItem (c : ConstItem) (hl : ∀ s ∈ c.texts, L.Leaf s) (hd : L.Depths d e) :
    Alike L.Texts (constItemText c d) (constItemText c e) := by
  rw [ConstItem.texts, List.forall_mem_cons] at hl
  rw [constItemText, constItemText]
  cases hv : c.value with
  | none => exact .malformed _
  | some x =>
    rw [hv] at hl
    refine (L.alike_expr x hl.2 hd).bind fun a b hab => .pure ?_
    exact L.append (L.append (L.leaf hl.1) (L.plain (by decide))) hab

theorem alike_property (p : Property) (hl : ∀ s ∈ p.texts, L.Leaf s) (hd : L.Depths d e) :
    Alike L.Texts (propertyText p d) (propertyText p e) := by
  simp only [Property.texts, List.forall_mem_append] at hl
  obtain ⟨⟨htype, hitems⟩, hattrs⟩ := hl
  have hi : List.Forall₂ L.ItemAlike
      (p.items.map fun i => some ⟨some i.comments, propertyItemText i⟩)
      (p.items.map fun i => some ⟨some i.comments, propertyItemText i⟩) :=
    L.alike_items fun i hi _ _ => L.alike_propertyItem i (L.leaf_of_flatMap hitems hi)
  rw [propertyText, propertyText]
  by_cases hn : p.items.isEmpty = true
  · rw [if_pos hn, if_pos hn]
    exact .malformed _
  · rw [if_neg hn, if_neg hn]
    refine (L.alike_attrLines p.attrGroups hattrs hd).bind fun a a' ha => ?_
    refine (L.alike_typeBefore p.type htype).bind fun t t' ht => ?_
    refine (alike_commaSeparated hi hd).bind fun x x' hx => .pure ?_
    have hf : Text.Plain (if p.flags.text = "" then "var " else p.flags.text) := by
      split_ifs
      · decide
      · exact p.flags.plain_text
    exact L.append (L.append (L.append (L.append ha (L.plain hf)) ht) hx) (L.plain (by decide))

theorem alike_constants (c : Constants) (hl : ∀ s ∈ c.texts, L.Leaf s) (hd : L.Depths d e) :
    Alike L.Texts (constantsText c d) (constantsText c e) := by
  simp only [Constants.texts, List.forall_mem_append] at hl
  have hi : List.Forall₂ L.ItemAlike (c.items.map fun i => some ⟨some i.comments, constItemText i⟩)
      (c.items.map fun i => some ⟨some i.comments, constItemText i⟩) :=
    L.alike_items fun i hi _ _ => L.alike_constItem i (L.leaf_of_flatMap hl.1 hi)
  rw [constantsText, constantsText]
  split_ifs with hn
  · exact .malformed _
  · refine (L.alike_attrLines c.attrGroups hl.2 hd).bind fun a a' ha => ?_
    refine (alike_commaSeparated hi hd).bind fun x x' hx => .pure ?_
    have hw := L.append (L.append ha (L.plain c.flags.plain_text))
      (L.plain (s := "const ") (by decide))
    exact L.append (L.append hw hx) (L.plain (by decide))

theorem alike_traitUse (t : TraitUse) (hl : ∀ s ∈ t.traits, L.Leaf s) :
    Alike L.Texts (traitUseText t) (traitUseText t) := by
  rw [traitUseText]
  split_ifs
  · exact .malformed _
  · refine .pure (L.append (L.append (L.plain (by decide)) ?_) (L.plain (by decide)))
    exact L.intercalate_leaves (by decide) hl

theorem like_classHead (h : ClassHead) (hl : ∀ s ∈ h.texts, L.Leaf s) :
    L.Texts h.text h.text := by
  simp only [ClassHead.texts, List.cons_append, List.forall_mem_cons, List.forall_mem_append] at hl
  obtain ⟨hname, hparent, himplements, _⟩ := hl
  rw [ClassHead.text]
  refine L.append (L.append (L.append (L.append (L.plain h.flags.plain_text)
    (L.plain (by decide))) ?_) ?_) ?_
  · split_ifs
    · exact L.plain (by decide)
    · exact L.append (L.plain (by decide)) (L.leaf hname)
  · split_ifs
    · exact L.plain (by decide)
    · exact L.append (L.plain (by decide)) (L.leaf hparent)
  · split_ifs
    · exact L.plain (by decide)
    · exact L.append (L.plain (by decide)) (L.intercalate_leaves (by decide) himplements)

end Parts

end Likeness

end PhpDecl
