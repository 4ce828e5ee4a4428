import PhpDecl.Proofs.EmptyLines
import PhpDecl.Proofs.Marks

/-!
# At the left margin

A line at the left margin has no indentation, so it is empty unless something is written on it. A
list that is split there is closed on such a line.

* `gives_maybeMultiline_margin`: a list at the left margin up to its closing delimiter;
* **`gives_expr_margin`**, `gives_attrGroup_margin`: expressions and attributes at the left margin
  add no gaps;
* `Inked`, **`gives_attrLines_margin`**: nor do attributes above something that is not white space.
-/

namespace PhpDecl

open Traced

/-! ## Lists -/

section Lists

variable {is : List (Option Item)}

theorem lineBreak_zero : lineBreak 0 = "\n" := by decide

theorem gives_commaSeparated_margin (h : ∀ i ∈ is, (itemText i (0 : Nat)).Gives (HasGaps 0)) :
    (commaSeparated is (0 : Nat)).Gives (HasGaps 0) := by
  suffices ht : (itemTexts is (0 : Nat)).Gives fun parts => HasGaps 0 (", ".intercalate parts) from
    ht.bind fun parts hp => .pure hp
  induction is with
  | nil => exact .pure (.of_oneLine (by decide))
  | cons i is ih =>
    rw [List.forall_mem_cons] at h
    refine h.1.bind fun s hs => (ih h.2).bind fun parts hp => .pure ?_
    exact hs.intercalate_cons (by decide) hp

/-- **A list at the left margin up to its closing delimiter.** The items of a split list stand one
level deeper. -/
theorem gives_maybeMultiline_margin (trailing : Bool) (close : String) (hn : '\n' ∉ close.toList)
    (hne : close ≠ "") (deep : List.Forall₂ marginless.ItemAlike is is)
    (flat : ∀ i ∈ is, (itemText i (0 : Nat)).Gives (HasGaps 0)) :
    (maybeMultiline is trailing (0 : Nat)).Gives fun list => HasGaps 0 (list ++ close) := by
  rw [maybeMultiline_of_readable (Likeness.readable_of_alike deep).1]
  split_ifs
  · intro list h
    rw [multilineBlock, newline_natCast] at h
    obtain ⟨text, ht, h⟩ := result_bind_eq_ok.mp h
    cases h
    have hlines : HasGaps 0 text :=
      gives_marginless (Likeness.alike_itemLines trailing deep ⟨rfl, Nat.one_pos⟩) text ht
    rw [lineBreak_zero, String.append_assoc]
    exact hlines.append (.break_oneLine hn hne)
  · intro list h
    exact (gives_commaSeparated_margin flat list h).append (.of_oneLine hn)

end Lists

/-! ## Expressions -/

mutual

/-- **An expression at the left margin adds no gaps.** -/
theorem gives_expr_margin : ∀ x : Expr, (∀ t ∈ x.texts, '\n' ∉ t.toList) →
    (x.render (0 : Nat)).Gives (HasGaps 0)
  | .variable _ name, hl => by
    have hname : HasGaps 0 name := .of_oneLine (hl name (by simp [Expr.texts]))
    exact .pure ((HasGaps.of_oneLine (s := "$") (by decide)).append hname)
  | .string _ value, hl =>
    .pure (.of_oneLine (Text.newline_not_mem_literal (hl value (by simp [Expr.texts]))))
  | .integer _ value, _ =>
    .pure (.of_oneLine (Text.newline_not_mem_of_plain (Text.plain_intRepr value)))
  | .constant _ name, hl => .pure (.of_oneLine (hl name (by simp [Expr.texts])))
  | .call _ name args, hl => by
    rw [Expr.texts, List.forall_mem_cons] at hl
    rw [Expr.render]
    refine (gives_maybeMultiline_margin false ")" (by decide) (by decide)
      (marginless.alike_args args hl.2) (gives_args_margin args hl.2)).bind fun list h => .pure ?_
    rw [String.append_assoc]
    exact ((HasGaps.of_oneLine hl.1).append (.of_oneLine (by decide))).append h
  | .methodCall _ target name args, hl => by
    rw [Expr.texts, List.forall_mem_append, List.forall_mem_cons] at hl
    rw [Expr.render]
    refine (gives_exprText_margin target hl.1).bind fun object ho => ?_
    refine (gives_maybeMultiline_margin false ")" (by decide) (by decide)
      (marginless.alike_args args hl.2.2) (gives_args_margin args hl.2.2)).bind
        fun list h => .pure ?_
    have hn := (ho.append (.of_oneLine (s := "->") (by decide))).append (.of_oneLine hl.2.1)
    rw [String.append_assoc]
    exact (hn.append (.of_oneLine (by decide))).append h
  | .fetch _ target name, hl => by
    rw [Expr.texts, List.forall_mem_append] at hl
    rw [Expr.render]
    refine (gives_exprText_margin target hl.1).bind fun object ho => .pure ?_
    exact (ho.append (.of_oneLine (by decide))).append (.of_oneLine (hl.2 name (by simp)))
  | .assign _ target value, hl => by
    rw [Expr.texts, List.forall_mem_append] at hl
    rw [Expr.render]
    refine (gives_exprText_margin target hl.1).bind fun left ha => ?_
    refine (gives_exprText_margin value hl.2).bind fun right hb => .pure ?_
    exact (ha.append (.of_oneLine (by decide))).append hb
  | .array _ items, hl => by
    rw [Expr.texts] at hl
    rw [Expr.render]
    refine (gives_maybeMultiline_margin true "]" (by decide) (by decide)
      (marginless.alike_arrayItems items hl) (gives_arrayItems_margin items hl)).bind
        fun list h => .pure ?_
    rw [String.append_assoc]
    exact (HasGaps.of_oneLine (by decide)).append h
  | .foreign _ _, _ => .malformed

theorem gives_exprText_margin : ∀ x : Option Expr, (∀ t ∈ Expr.optTexts x, '\n' ∉ t.toList) →
    (exprText x (0 : Nat)).Gives (HasGaps 0)
  | none, _ => .malformed
  | some x, hl => gives_expr_margin x hl

theorem gives_args_margin : ∀ args : List Arg, (∀ t ∈ Arg.listTexts args, '\n' ∉ t.toList) →
    ∀ i ∈ argItems args, (itemText i (0 : Nat)).Gives (HasGaps 0)
  | [], _ => nofun
  | a :: rest, hl => by
    rw [Arg.listTexts, List.forall_mem_append] at hl
    rw [argItems, List.forall_mem_cons]
    exact ⟨gives_arg_margin a hl.1, gives_args_margin rest hl.2⟩

theorem gives_arg_margin : ∀ a : Arg, (∀ t ∈ a.texts, '\n' ∉ t.toList) →
    (argText a (0 : Nat)).Gives (HasGaps 0)
  | .mk _ value unpack, hl => by
    rw [argText]
    refine (gives_exprText_margin value hl).bind fun text ht => .pure ?_
    split_ifs
    · exact (HasGaps.of_oneLine (by decide)).append ht
    · exact ht

theorem gives_arrayItems_margin : ∀ items : List ArrayItem,
    (∀ t ∈ ArrayItem.listTexts items, '\n' ∉ t.toList) →
      ∀ i ∈ arrayItems items, (itemText i (0 : Nat)).Gives (HasGaps 0)
  | [], _ => nofun
  | i :: rest, hl => by
    rw [ArrayItem.listTexts, List.forall_mem_append] at hl
    rw [arrayItems, List.forall_mem_cons]
    exact ⟨gives_arrayItem_margin i hl.1, gives_arrayItems_margin rest hl.2⟩

theorem gives_arrayItem_margin : ∀ i : ArrayItem, (∀ t ∈ i.texts, '\n' ∉ t.toList) →
    (arrayItemText i (0 : Nat)).Gives (HasGaps 0)
  | .mk _ key value, hl => by
    rw [ArrayItem.texts, List.forall_mem_append] at hl
    rw [arrayItemText]
    refine (gives_exprText_margin value hl.2).bind fun text ht => ?_
    exact (gives_key_margin key hl.1).bind fun k hk => .pure (hk.append ht)

theorem gives_key_margin : ∀ key : Option Expr, (∀ t ∈ Expr.optTexts key, '\n' ∉ t.toList) →
    (keyText key (0 : Nat)).Gives (HasGaps 0)
  | none, _ => .pure (.of_oneLine (by decide))
  | some x, hl => by
    rw [keyText]
    exact (gives_expr_margin x hl).bind fun text ht => .pure (ht.append (.of_oneLine (by decide)))

end

/-! ## Attributes -/

theorem gives_attribute_margin (a : Attribute) (hl : ∀ t ∈ a.texts, '\n' ∉ t.toList) :
    (attributeText a (0 : Nat)).Gives (HasGaps 0) := by
  rw [Attribute.texts, List.forall_mem_cons] at hl
  rw [attributeText]
  split_ifs
  · exact .pure (.of_oneLine hl.1)
  · refine (gives_maybeMultiline_margin true ")" (by decide) (by decide)
      (marginless.alike_args a.args hl.2) (gives_args_margin a.args hl.2)).bind
        fun list h => .pure ?_
    rw [String.append_assoc]
    exact ((HasGaps.of_oneLine hl.1).append (.of_oneLine (by decide))).append h

theorem gives_attrGroup_margin (g : AttrGroup) (hl : ∀ t ∈ g.texts, '\n' ∉ t.toList) :
    (attrGroupText g (0 : Nat)).Gives (HasGaps 0) := by
  refine (gives_commaSeparated_margin fun i hi => ?_).bind fun attrs ha => .pure ?_
  · obtain ⟨a, hm, rfl⟩ := List.mem_map.mp hi
    exact gives_attribute_margin a (marginless.leaf_of_flatMap hl hm)
  · exact ((HasGaps.of_oneLine (s := "#[") (by decide)).append ha).append (.of_oneLine (by decide))

/-- The text starts with something that is not dropped with a left margin. -/
def Inked (s : String) : Prop := ∃ c cs, s.toList = c :: cs ∧ isMargin c = false

theorem Inked.append {s : String} (h : Inked s) (t : String) : Inked (s ++ t) := by
  obtain ⟨c, cs, hs, hc⟩ := h
  exact ⟨c, cs ++ t.toList, by rw [String.toList_append, hs]; rfl, hc⟩

theorem Inked.hasGaps_break_iff {s : String} {n : Nat} (h : Inked s) :
    HasGaps n ("\n" ++ s) ↔ HasGaps n s := by
  obtain ⟨c, cs, hs, hc⟩ := h
  refine hasGaps_break_append hs ?_
  rintro rfl
  cases hc

/-- **Attributes above something at the left margin add no gaps.** -/
theorem gives_attrLines_margin (gs : List AttrGroup)
    (hl : ∀ t ∈ gs.flatMap AttrGroup.texts, '\n' ∉ t.toList) {s : String} (hs : HasGaps 0 s)
    (hi : Inked s) :
    (attrLines gs (0 : Nat)).Gives fun attrs => HasGaps 0 (attrs ++ s) ∧ Inked (attrs ++ s) := by
  induction gs with
  | nil =>
    refine .pure ?_
    rw [String.empty_append]
    exact ⟨hs, hi⟩
  | cons g gs ih =>
    rw [List.flatMap_cons, List.forall_mem_append] at hl
    rw [attrLines, newline_natCast]
    intro attrs h
    obtain ⟨text, ht, h⟩ := result_bind_eq_ok.mp h
    rw [result_bind_ok (result_ok _)] at h
    obtain ⟨more, hm, h⟩ := result_bind_eq_ok.mp h
    cases h
    -- the next line is not empty: it starts with a group or with what the groups stand above
    obtain ⟨hgaps, hinked⟩ := ih hl.2 more hm
    have htext := gives_attrGroup_margin g hl.1 text ht
    obtain ⟨list, _, h⟩ := result_bind_eq_ok.mp ht
    cases h
    rw [lineBreak_zero, String.append_assoc, String.append_assoc]
    refine ⟨htext.append (hinked.hasGaps_break_iff.mpr hgaps), ?_⟩
    exact ((Inked.append ⟨'#', ['['], rfl, rfl⟩ list).append "]").append _

end PhpDecl
