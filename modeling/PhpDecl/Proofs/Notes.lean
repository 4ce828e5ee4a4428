import Mathlib.Tactic.Common
import PhpDecl.Proofs.Results
import PhpDecl.Render.Declaration

/-!
# What is noted while rendering

Only styles take notes. Everything that a style does not decide is rendered silently, and the notes
of a rendering are those of its steps one after the other.

* `Traced.Noted`: the notes of a step that succeeds, with **`Traced.Noted.bind`**;
* `SilentItems`, `noted_maybeMultiline`, `noted_decideLayout`: lists of items that are rendered
  silently;
* **`noted_expr`**, **`noted_param`** and their companions: expressions and parts of declarations
  are.
-/

namespace PhpDecl

namespace Traced

variable {α β : Type}

theorem notes_bind_ok {x : Traced α} {a : α} (h : x.result = .ok a) (f : α → Traced β) :
    (x >>= f).notes = x.notes ++ (f a).notes := by
  change (x.andThen f).notes = _
  unfold andThen
  rw [h]

theorem notes_note_bind (n : Note) (x : Traced α) :
    (note n >>= fun _ => x).notes = n :: x.notes := rfl

/-- If the step succeeds, it takes exactly these notes. -/
def Noted (x : Traced α) (ns : List Note) : Prop := ∀ a, x.result = .ok a → x.notes = ns

namespace Noted

variable {x : Traced α} {f : α → Traced β} {ms ns : List Note}

theorem pure {a : α} : (Pure.pure a : Traced α).Noted [] := fun _ _ => rfl

theorem fail {e : Failure} : (Traced.fail e : Traced α).Noted ns := fun _ h => nomatch h

theorem malformed {c : TreeError} : (Traced.malformed c : Traced α).Noted ns := fail

theorem ofExcept (r : Except TreeError α) : (Traced.ofExcept r).Noted [] := by
  cases r with
  | error c => exact malformed
  | ok a => exact pure

/-- **Steps take their notes one after the other.** -/
theorem bind (hx : x.Noted ms) (hf : ∀ a, x.result = .ok a → (f a).Noted ns) :
    (x >>= f).Noted (ms ++ ns) := by
  intro b h
  obtain ⟨a, ha, hb⟩ := result_bind_eq_ok.mp h
  rw [notes_bind_ok ha, hx a ha, hf a ha b hb]

/-- A silent first step does not matter. -/
theorem after_silent (hx : x.Noted []) (hf : ∀ a, (f a).Noted ns) : (x >>= f).Noted ns :=
  hx.bind fun a _ => hf a

/-- Neither does a silent last step. -/
theorem then_silent (hx : x.Noted ns) (hf : ∀ a, (f a).Noted []) : (x >>= f).Noted ns := by
  have h := hx.bind fun a _ => hf a
  rwa [List.append_nil] at h

theorem then_pure (hx : x.Noted ns) (f : α → β) : (x >>= fun a => Pure.pure (f a)).Noted ns :=
  hx.then_silent fun _ => pure

theorem after_note (n : Note) (hx : x.Noted ns) : (note n >>= fun _ => x).Noted (n :: ns) := by
  intro a h
  rw [result_note_bind] at h
  rw [notes_note_bind, hx a h]

theorem within (hx : x.Noted ns) (wrap : TreeError → TreeError) : (x.within wrap).Noted ns := by
  intro a h
  have ha := result_within_eq_ok.mp h
  unfold Traced.within
  rw [ha]
  exact hx a ha

end Noted

end Traced

open Traced

/-! ## Lists -/

/-- Items that are rendered silently at every depth. -/
def SilentItems (items : List (Option Item)) : Prop :=
  ∀ i ∈ items, ∀ depth, (itemText i depth).Noted []

section Lists

variable {items : List (Option Item)}

theorem noted_newline (depth : Int) : (newline depth).Noted [] := by
  rw [newline]
  split_ifs
  · exact .fail
  · exact .pure

theorem noted_readComments (cs : Option (List Comment)) : (readComments cs).Noted [] := by
  cases cs with
  | none => exact .fail
  | some cs => exact .pure

theorem noted_askComments (items : List (Option Item)) : (askComments items).Noted [] := by
  induction items with
  | nil => exact .pure
  | cons i items ih =>
    cases i with
    | none => exact ih
    | some i =>
      rw [askComments]
      refine (noted_readComments i.comments).after_silent fun cs => ?_
      split_ifs
      · exact ih
      · exact .pure

theorem noted_leadingComments (cs : List Comment) (depth : Int) :
    (leadingComments cs depth).Noted [] := by
  rw [leadingComments]
  split_ifs
  · exact .pure
  · refine (noted_newline depth).after_silent fun nl => .then_pure ?_ _
    exact (noted_newline depth).then_pure _

theorem noted_itemTexts (h : SilentItems items) (depth : Int) :
    (itemTexts items depth).Noted [] := by
  induction items with
  | nil => exact .pure
  | cons i items ih =>
    have hrest := ih fun j hj => h j (List.mem_cons_of_mem i hj)
    exact (h i List.mem_cons_self depth).after_silent fun s => hrest.then_pure _

theorem noted_commaSeparated (h : SilentItems items) (depth : Int) :
    (commaSeparated items depth).Noted [] :=
  (noted_itemTexts h depth).then_pure _

theorem noted_itemLines (trailing : Bool) (h : SilentItems items) (depth : Int) :
    (itemLines trailing items depth).Noted [] := by
  induction items with
  | nil => exact .pure
  | cons i items ih =>
    cases i with
    | none => exact .malformed
    | some i =>
      have hrest := ih fun j hj => h j (List.mem_cons_of_mem _ hj)
      have htext : (i.text depth).Noted [] := h (some i) List.mem_cons_self depth
      rw [itemLines]
      refine (noted_readComments i.comments).after_silent fun cs => ?_
      refine (noted_leadingComments cs depth).after_silent fun above => ?_
      refine htext.after_silent fun text => (noted_newline depth).after_silent fun nl => ?_
      exact hrest.then_pure _

theorem noted_multilineBlock (trailing : Bool) (h : SilentItems items) (depth : Int) :
    (multilineBlock items trailing depth).Noted [] :=
  (noted_itemLines trailing h (depth + 1)).after_silent fun _ => (noted_newline depth).then_pure _

theorem noted_maybeMultiline (trailing : Bool) (h : SilentItems items) (depth : Int) :
    (maybeMultiline items trailing depth).Noted [] := by
  rw [maybeMultiline]
  refine (noted_askComments items).after_silent fun commented => ?_
  split_ifs
  · exact noted_multilineBlock trailing h depth
  · exact noted_commaSeparated h depth

/-- **Deciding on a layout takes no notes**, even where the list is rendered twice. -/
theorem noted_decideLayout (h : SilentItems items) (column depth : Int) :
    (decideLayout items column depth).Noted [] := by
  rw [decideLayout]
  by_cases hn : items.isEmpty = true
  · rw [if_pos hn]
    exact .pure
  rw [if_neg hn]
  refine (noted_askComments items).after_silent fun commented => ?_
  split_ifs
  · exact (noted_multilineBlock true h depth).then_pure _
  · refine (noted_commaSeparated h depth).after_silent fun single => ?_
    split_ifs
    · exact .pure
    · exact (noted_multilineBlock true h depth).then_pure _

theorem silentItems_map {α : Type} {xs : List α} {item : α → Item}
    (h : ∀ x depth, ((item x).text depth).Noted []) :
    SilentItems (xs.map fun x => some (item x)) := by
  intro i hi depth
  obtain ⟨x, _, rfl⟩ := List.mem_map.mp hi
  exact h x depth

end Lists

/-! ## Expressions -/

mutual

/-- **An expression is rendered silently.** -/
theorem noted_expr : ∀ (e : Expr) (depth : Int), (e.render depth).Noted []
  | .variable _ _, _ => .pure
  | .string _ _, _ => .pure
  | .integer _ _, _ => .pure
  | .constant _ _, _ => .pure
  | .call _ _ args, depth => by
    rw [Expr.render]
    exact (noted_maybeMultiline false (silentItems_args args) depth).then_pure _
  | .methodCall _ target _ args, depth => by
    rw [Expr.render]
    refine (noted_exprText target depth).after_silent fun object => ?_
    exact (noted_maybeMultiline false (silentItems_args args) depth).then_pure _
  | .fetch _ target _, depth => by
    rw [Expr.render]
    exact (noted_exprText target depth).then_pure _
  | .assign _ target value, depth => by
    rw [Expr.render]
    refine (noted_exprText target depth).after_silent fun left => ?_
    exact (noted_exprText value depth).then_pure _
  | .array _ items, depth => by
    rw [Expr.render]
    exact (noted_maybeMultiline true (silentItems_arrayItems items) depth).then_pure _
  | .foreign _ _, _ => .malformed

theorem noted_exprText : ∀ (e : Option Expr) (depth : Int), (exprText e depth).Noted []
  | none, _ => .malformed
  | some e, depth => noted_expr e depth

theorem silentItems_args : ∀ args : List Arg, SilentItems (argItems args)
  | [], _, hi => nomatch hi
  | a :: rest, i, hi => by
    rcases List.mem_cons.mp hi with rfl | hi
    · exact noted_arg a
    · exact silentItems_args rest i hi

theorem noted_arg : ∀ (a : Arg) (depth : Int), (argText a depth).Noted []
  | .mk _ value _, depth => by
    rw [argText]
    exact (noted_exprText value depth).then_pure _

theorem silentItems_arrayItems : ∀ items : List ArrayItem, SilentItems (arrayItems items)
  | [], _, hi => nomatch hi
  | a :: rest, i, hi => by
    rcases List.mem_cons.mp hi with rfl | hi
    · exact noted_arrayItem a
    · exact silentItems_arrayItems rest i hi

theorem noted_arrayItem : ∀ (i : ArrayItem) (depth : Int), (arrayItemText i depth).Noted []
  | .mk _ key value, depth => by
    rw [arrayItemText]
    refine (noted_exprText value depth).after_silent fun text => ?_
    exact (noted_key key depth).then_pure _

theorem noted_key : ∀ (key : Option Expr) (depth : Int), (keyText key depth).Noted []
  | none, _ => .pure
  | some key, depth => by
    rw [keyText]
    exact (noted_expr key depth).then_pure _

end

/-! ## Parts of declarations -/

section Parts

variable (depth : Int)

theorem noted_exprItems (es : List (Option Expr)) :
    (commaSeparated (exprItems es) depth).Noted [] := by
  refine noted_commaSeparated (fun i hi depth => ?_) depth
  obtain ⟨e, _, rfl⟩ := List.mem_map.mp hi
  cases e with
  | none => exact .malformed
  | some e => exact noted_expr e depth

theorem noted_attribute (a : Attribute) : (attributeText a depth).Noted [] := by
  rw [attributeText]
  split_ifs
  · exact .pure
  · exact (noted_maybeMultiline true (silentItems_args a.args) depth).then_pure _

theorem noted_attrGroup (g : AttrGroup) : (attrGroupText g depth).Noted [] := by
  have h : SilentItems (g.attrs.map fun a => some ⟨some a.comments, attributeText a⟩) :=
    silentItems_map fun a depth => noted_attribute depth a
  exact (noted_commaSeparated h depth).then_pure _

theorem noted_attrLines (gs : List AttrGroup) : (attrLines gs depth).Noted [] := by
  induction gs with
  | nil => exact .pure
  | cons g gs ih =>
    rw [attrLines]
    refine (noted_attrGroup depth g).after_silent fun text => ?_
    exact (noted_newline depth).after_silent fun nl => ih.then_pure _

theorem noted_inlineAttrs (gs : List AttrGroup) : (inlineAttrs gs depth).Noted [] := by
  induction gs with
  | nil => exact .pure
  | cons g gs ih =>
    rw [inlineAttrs]
    exact (noted_attrGroup depth g).after_silent fun text => ih.then_pure _

theorem noted_typeBefore (t : Option TypeExpr) : (typeBefore t).Noted [] := by
  cases t with
  | none => exact .pure
  | some t => exact (Noted.ofExcept t.text).then_pure _

theorem noted_returnAfter (t : Option TypeExpr) : (returnAfter t).Noted [] := by
  cases t with
  | none => exact .pure
  | some t => exact (Noted.ofExcept t.text).then_pure _

theorem noted_defaultAfter (e : Option Expr) : (defaultAfter e depth).Noted [] := by
  cases e with
  | none => exact .pure
  | some e => exact (noted_expr e depth).then_pure _

/-- **A parameter is rendered silently.** -/
theorem noted_param (p : Param) : (paramText p depth).Noted [] := by
  rw [paramText]
  split
  · exact .malformed
  · refine (noted_inlineAttrs depth p.attrGroups).after_silent fun attrs => ?_
    refine (noted_typeBefore p.type).after_silent fun type => ?_
    exact (noted_defaultAfter depth p.default).then_pure _

theorem silentItems_params (ps : List Param) : SilentItems (paramItems ps) :=
  silentItems_map fun p depth => noted_param depth p

theorem noted_propertyItem (p : PropertyItem) : (propertyItemText p depth).Noted [] :=
  (noted_defaultAfter depth p.default).then_pure _

theorem noted_constItem (c : ConstItem) : (constItemText c depth).Noted [] := by
  rw [constItemText]
  split
  · exact .malformed
  · exact (noted_expr _ depth).then_pure _

theorem noted_property (p : Property) : (propertyText p depth).Noted [] := by
  have h : SilentItems (p.items.map fun i => some ⟨some i.comments, propertyItemText i⟩) :=
    silentItems_map fun i depth => noted_propertyItem depth i
  rw [propertyText]
  split
  · exact .malformed
  · refine (noted_attrLines depth p.attrGroups).after_silent fun attrs => ?_
    refine (noted_typeBefore p.type).after_silent fun type => ?_
    exact (noted_commaSeparated h depth).then_pure _

theorem noted_constants (c : Constants) : (constantsText c depth).Noted [] := by
  have h : SilentItems (c.items.map fun i => some ⟨some i.comments, constItemText i⟩) :=
    silentItems_map fun i depth => noted_constItem depth i
  rw [constantsText]
  split_ifs
  · exact .malformed
  · refine (noted_attrLines depth c.attrGroups).after_silent fun attrs => ?_
    exact (noted_commaSeparated h depth).then_pure _

theorem noted_traitUse (t : TraitUse) : (traitUseText t).Noted [] := by
  rw [traitUseText]
  split_ifs
  · exact .malformed
  · exact .pure

end Parts

end PhpDecl
