import PhpDecl.Proofs.Marks
import PhpDecl.Proofs.Quiet
import PhpDecl.Proofs.Verdict

/-!
# Comments and literals survive printing

Whatever layout a list or a body is given, the marks of its elements occur in its text in order.

* `ItemsMark`, `MembersMark`: lists of items and members with the marks of their texts;
* `gives_maybeMultiline`, `gives_written`, `gives_body`: the marks of a list or a body, wherever
  its style puts it;
* `gives_expr`, `gives_signature`, `gives_stmt`: the marks of expressions, signatures and
  statements;
* **`prettyPrint_marks`**: all comments that are meant to be printed and all string literals occur
  in the printed text in reading order, and no other comment matters.
-/

namespace PhpDecl

open Traced

theorem occur_commentLines (cs : List Comment) (d : Nat) :
    OccurInOrder (commentMarks cs d) (commentLines cs d) := by
  induction cs with
  | nil => trivial
  | cons c cs ih =>
    rw [commentLines_cons]
    exact ((OccurInOrder.single (.comment c d)).after (lineBreak d)).append ih

theorem gives_leadingComments (cs : List Comment) (d : Nat) :
    (leadingComments cs d).Gives (OccurInOrder (commentMarks cs d)) := by
  intro text h
  rw [result_leadingComments] at h
  cases h
  exact occur_commentLines cs d

/-! ## Lists -/

/-- Items whose texts hold marks, in front of which stand their comments. A missing item has no
text. -/
inductive ItemsMark : List (Option Item) → (Nat → List Mark) → Prop
  | nil : ItemsMark [] fun _ => []
  | missing {is : List (Option Item)} {marks : Nat → List Mark} : ItemsMark (none :: is) marks
  | cons {cs : List Comment} {text : Int → Traced String} {is : List (Option Item)}
    {own marks : Nat → List Mark} (gives : ∀ d : Nat, (text d).Gives (OccurInOrder (own d)))
    (rest : ItemsMark is marks) :
    ItemsMark (some ⟨some cs, text⟩ :: is) fun d => commentMarks cs d ++ own d ++ marks d

section Lists

variable {is : List (Option Item)} {marks : Nat → List Mark} {d : Nat}

theorem itemsMark_map {α : Type} {xs : List α} {cs : α → List Comment}
    {text : α → Int → Traced String} {own : α → Nat → List Mark}
    (h : ∀ x (d : Nat), (text x d).Gives (OccurInOrder (own x d))) :
    ItemsMark (xs.map fun x => some ⟨some (cs x), text x⟩) fun d =>
      xs.flatMap fun x => commentMarks (cs x) d ++ own x d := by
  induction xs with
  | nil => exact .nil
  | cons x xs ih => exact .cons (h x) ih

/-- Items on one line. -/
theorem gives_commaSeparated (h : ItemsMark is marks) (hc : hasComments is = false) :
    (commaSeparated is d).Gives (OccurInOrder (marks d)) := by
  suffices ht : (itemTexts is d).Gives fun parts =>
      OccurInOrder (marks d) (", ".intercalate parts) from
    ht.bind fun parts hp => .pure hp
  induction h with
  | nil => exact .pure trivial
  | missing => exact Gives.malformed.bind fun _ h => h
  | @cons cs text is own marks gives _ ih =>
    rw [hasComments, List.any_cons, Bool.or_eq_false_iff] at hc
    obtain rfl : cs = [] := by simpa using hc.1
    refine (gives d).bind fun s hs => ?_
    exact (ih hc.2).bind fun parts hp => .pure (hs.intercalate_cons hp)

/-- Items one per line. -/
theorem gives_itemLines (trailing : Bool) (h : ItemsMark is marks) :
    (itemLines trailing is d).Gives (OccurInOrder (marks d)) := by
  induction h with
  | nil => exact .pure trivial
  | missing => exact .malformed
  | @cons cs text is own marks gives _ ih =>
    rw [itemLines, readComments_some_bind, newline_natCast]
    refine (gives_leadingComments cs d).bind fun above ha => ?_
    refine (gives d).bind fun s hs => ?_
    refine ih.bind fun more hm => .pure ?_
    have hi := (ha.before (lineBreak d)).append hs
    exact (hi.before _).append hm

theorem gives_multilineBlock (trailing : Bool) (h : ItemsMark is marks) :
    (multilineBlock is trailing d).Gives (OccurInOrder (marks (d + 1))) := by
  rw [multilineBlock, newline_natCast]
  exact (gives_itemLines (d := d + 1) trailing h).bind fun text ht => .pure (ht.before _)

/-- **A list that is split for its comments only.** -/
theorem gives_maybeMultiline (trailing : Bool) (h : ItemsMark is marks) :
    (maybeMultiline is trailing d).Gives (OccurInOrder (marks (listDepth is d))) := by
  rw [maybeMultiline, listDepth]
  refine Gives.bind (fun b hb => askComments_eq_ok hb) ?_
  rintro b rfl
  split_ifs with hc
  · exact gives_multilineBlock trailing h
  · exact gives_commaSeparated h (Bool.eq_false_iff.mpr hc)

/-- **A list in any layout that its comments allow.** -/
theorem gives_written {layout : Layout} (h : ItemsMark is marks)
    (hl : hasComments is = true → layout = .multiLine) :
    (written layout is d).Gives (OccurInOrder (marks (layout.inside d))) := by
  cases layout with
  | singleLine =>
    exact gives_commaSeparated h (Bool.eq_false_iff.mpr fun hc => nomatch hl hc)
  | multiLine => exact gives_multilineBlock true h

end Lists

/-! ## Bodies -/

/-- Members whose texts hold marks, in front of which stand their comments. A missing member has no
text, and one that only carries comments has no marks of its own. -/
inductive MembersMark : List (Option Member) → (Nat → List Mark) → Prop
  | nil : MembersMark [] fun _ => []
  | missing {ms : List (Option Member)} {marks : Nat → List Mark} : MembersMark (none :: ms) marks
  | cons {m : Member} {cs : List Comment} {ms : List (Option Member)}
    {own marks : Nat → List Mark} (comments : m.comments = some cs)
    (silent : m.isNop = true → ∀ d, own d = [])
    (text : ∀ d : Nat, (m.text d).Gives (OccurInOrder (own d))) (rest : MembersMark ms marks) :
    MembersMark (some m :: ms) fun d => commentMarks cs d ++ own d ++ marks d

section Bodies

variable {ms : List (Option Member)} {marks : Nat → List Mark} {d : Nat}

theorem gives_compactBody (h : MembersMark ms marks) :
    (compactBody ms d).Gives (OccurInOrder (marks d)) := by
  induction h with
  | nil => exact .pure trivial
  | missing => exact .malformed
  | @cons m cs ms own marks hcs silent text _ ih =>
    rw [compactBody, hcs, readComments_some_bind, newline_natCast]
    refine (gives_leadingComments cs d).bind fun above ha => ?_
    split_ifs with hn
    · rw [Bool.and_eq_true] at hn
      dsimp only
      rw [silent hn.1 d, List.append_nil]
      exact ih.bind fun more hm => .pure (ha.append hm)
    · refine (text d).bind fun s hs => ih.bind fun more hm => .pure ?_
      exact ((ha.before (lineBreak d)).append hs).append hm

theorem gives_splitBody (h : MembersMark ms marks) :
    (splitBody ms d).Gives (OccurInOrder (marks d)) := by
  suffices ht : (memberBlocks ms d).Gives fun blocks =>
      OccurInOrder (marks d) ("\n".intercalate blocks) from
    ht.bind fun blocks hb => .pure hb
  induction h with
  | nil => exact .pure trivial
  | missing => exact .malformed
  | @cons m cs ms own marks hcs silent text _ ih =>
    rw [memberBlocks, hcs, readComments_some_bind, newline_natCast]
    refine (gives_leadingComments cs d).bind fun above ha => ?_
    dsimp only
    by_cases hn : m.isNop = true
    · rw [if_pos hn, silent hn d, List.append_nil]
      refine ih.bind fun more hm => .pure ?_
      split_ifs with he
      · rw [String.isEmpty_iff.mp he] at ha
        have := ha.append hm
        rwa [String.empty_append] at this
      · exact ha.intercalate_cons hm
    · rw [if_neg hn]
      refine (text d).bind fun s hs => ih.bind fun more hm => .pure ?_
      exact ((ha.before (lineBreak d)).append hs).intercalate_cons hm

/-- **A body in any style.** -/
theorem gives_body (style : Style) (h : MembersMark ms marks) :
    (style.body ms d).Gives (OccurInOrder (marks d)) := by
  rcases style.result_body ms d with hb | hb
  · exact (gives_compactBody h).congr hb
  · exact (gives_splitBody h).congr hb

end Bodies

/-! ## Expressions -/

mutual

/-- **The marks of an expression occur in its text.** -/
theorem gives_expr : ∀ (e : Expr) (d : Nat), (e.render d).Gives (OccurInOrder (e.marks d))
  | .variable _ _, _ => .pure trivial
  | .string _ value, _ => .pure (.single (.literal value))
  | .integer _ _, _ => .pure trivial
  | .constant _ _, _ => .pure trivial
  | .call _ name args, d => by
    rw [Expr.render, Expr.marks]
    refine (gives_maybeMultiline false (itemsMark_args args)).bind fun list hl => .pure ?_
    exact (hl.after _).before _
  | .methodCall _ target name args, d => by
    rw [Expr.render, Expr.marks]
    refine (gives_exprText target d).bind fun object ho => ?_
    refine (gives_maybeMultiline false (itemsMark_args args)).bind fun list hl => .pure ?_
    exact (((ho.before "->").before name).before "(" |>.append hl).before ")"
  | .fetch _ target name, d => by
    rw [Expr.render, Expr.marks]
    exact (gives_exprText target d).bind fun object ho => .pure ((ho.before _).before _)
  | .assign _ target value, d => by
    rw [Expr.render, Expr.marks]
    refine (gives_exprText target d).bind fun left hl => ?_
    exact (gives_exprText value d).bind fun right hr => .pure ((hl.before _).append hr)
  | .array _ items, d => by
    rw [Expr.render, Expr.marks]
    refine (gives_maybeMultiline true (itemsMark_arrayItems items)).bind fun list hl => .pure ?_
    exact (hl.after _).before _
  | .foreign _ _, _ => .malformed

theorem gives_exprText : ∀ (e : Option Expr) (d : Nat),
    (exprText e d).Gives (OccurInOrder (Expr.optMarks e d))
  | none, _ => .malformed
  | some e, d => gives_expr e d

theorem itemsMark_args : ∀ args : List Arg, ItemsMark (argItems args) (Arg.listMarks args)
  | [] => .nil
  | a :: rest => .cons (gives_arg a) (itemsMark_args rest)

theorem gives_arg : ∀ (a : Arg) (d : Nat), (argText a d).Gives (OccurInOrder (a.marks d))
  | .mk _ value unpack, d => by
    rw [argText, Arg.marks]
    refine (gives_exprText value d).bind fun text ht => .pure ?_
    split_ifs
    · exact ht.after _
    · exact ht

theorem itemsMark_arrayItems : ∀ items : List ArrayItem,
    ItemsMark (arrayItems items) (ArrayItem.listMarks items)
  | [] => .nil
  | i :: rest => .cons (gives_arrayItem i) (itemsMark_arrayItems rest)

theorem gives_arrayItem : ∀ (i : ArrayItem) (d : Nat),
    (arrayItemText i d).Gives (OccurInOrder (i.marks d))
  | .mk _ key value, d => by
    rw [arrayItemText, ArrayItem.marks]
    refine (gives_exprText value d).bind fun text ht => ?_
    exact (gives_key key d).bind fun k hk => .pure (hk.append ht)

theorem gives_key : ∀ (key : Option Expr) (d : Nat),
    (keyText key d).Gives (OccurInOrder (Expr.optMarks key d))
  | none, _ => .pure trivial
  | some key, d => by
    rw [keyText]
    exact (gives_expr key d).bind fun text ht => .pure (ht.before _)

end

/-! ## Parts of declarations -/

section Parts

variable {d : Nat}

/-- Elements on one line, without their comments. -/
theorem gives_commaSeparated_map {α : Type} {xs : List α} (comments : α → List Comment)
    {text : α → Int → Traced String} {own : α → Nat → List Mark}
    (h : ∀ x (d : Nat), (text x d).Gives (OccurInOrder (own x d))) :
    (commaSeparated (xs.map fun x => some ⟨some (comments x), text x⟩) d).Gives
      (OccurInOrder (xs.flatMap fun x => own x d)) := by
  have hm : ItemsMark (xs.map fun x => some ⟨some [], text x⟩) fun d =>
      xs.flatMap fun x => own x d := itemsMark_map h
  rw [commaSeparated_map (f := fun x => some ⟨some (comments x), text x⟩)
    (g := fun x => some ⟨some [], text x⟩) xs d fun _ => rfl]
  exact gives_commaSeparated hm (by simp [hasComments])

theorem itemsMark_exprs (es : List (Option Expr)) :
    ItemsMark (es.map fun e => e.map fun e => ⟨some [], e.render⟩) fun d =>
      es.flatMap fun e => Expr.optMarks e d := by
  induction es with
  | nil => exact .nil
  | cons e es ih =>
    cases e with
    | none => exact .missing
    | some e => exact .cons (gives_expr e) ih

theorem gives_exprItems (es : List (Option Expr)) :
    (commaSeparated (exprItems es) d).Gives
      (OccurInOrder (es.flatMap fun e => Expr.optMarks e d)) := by
  have hc : hasComments (es.map fun e => e.map fun e => (⟨some [], e.render⟩ : Item)) =
      false := by
    rw [hasComments, List.any_map, List.any_eq_false]
    intro e _
    cases e <;> simp
  rw [exprItems, commaSeparated_map (g := fun e => e.map fun e => ⟨some [], e.render⟩) es d
    (by rintro (_ | _) <;> rfl)]
  exact gives_commaSeparated (itemsMark_exprs es) hc

theorem gives_attribute (a : Attribute) (d : Nat) :
    (attributeText a d).Gives (OccurInOrder (a.marks d)) := by
  rw [attributeText, Attribute.marks]
  split_ifs with he
  · rw [List.isEmpty_iff.mp he]
    exact .pure trivial
  · refine (gives_maybeMultiline true (itemsMark_args a.args)).bind fun args ha => .pure ?_
    exact (ha.after _).before _

theorem gives_attrGroup (g : AttrGroup) (d : Nat) :
    (attrGroupText g d).Gives (OccurInOrder (g.attrs.flatMap (·.marks d))) :=
  (gives_commaSeparated_map Attribute.comments gives_attribute).bind fun _ ha =>
    .pure ((ha.after _).before _)

theorem gives_attrLines (gs : List AttrGroup) :
    (attrLines gs d).Gives (OccurInOrder (AttrGroup.listMarks gs d)) := by
  induction gs with
  | nil => exact .pure trivial
  | cons g gs ih =>
    rw [attrLines, newline_natCast, AttrGroup.listMarks, List.flatMap_cons]
    refine (gives_attrGroup g d).bind fun text ht => ?_
    exact ih.bind fun more hm => .pure ((ht.before _).append hm)

theorem gives_inlineAttrs (gs : List AttrGroup) :
    (inlineAttrs gs d).Gives (OccurInOrder (AttrGroup.listMarks gs d)) := by
  induction gs with
  | nil => exact .pure trivial
  | cons g gs ih =>
    rw [inlineAttrs, AttrGroup.listMarks, List.flatMap_cons]
    refine (gives_attrGroup g d).bind fun text ht => ?_
    exact ih.bind fun more hm => .pure ((ht.before _).append hm)

theorem gives_defaultAfter (e : Option Expr) (d : Nat) :
    (defaultAfter e d).Gives (OccurInOrder (Expr.optMarks e d)) := by
  cases e with
  | none => exact .pure trivial
  | some e => exact (gives_expr e d).bind fun text ht => .pure (ht.after _)

/-- **The marks of a parameter occur in its text.** -/
theorem gives_param (p : Param) (d : Nat) :
    (paramText p d).Gives (OccurInOrder (p.marks d)) := by
  rw [paramText, Param.marks]
  by_cases hn : p.name = ""
  · rw [if_pos hn]
    exact .malformed
  · rw [if_neg hn]
    refine (gives_inlineAttrs p.attrGroups).bind fun attrs ha => ?_
    refine Gives.any.bind fun type _ => ?_
    refine (gives_defaultAfter p.default d).bind fun default hd => .pure ?_
    exact OccurInOrder.append
      ((((((ha.before _).before _).before _).before _).before _).before _) hd

theorem itemsMark_params (ps : List Param) :
    ItemsMark (paramItems ps) (Param.listMarks ps) :=
  itemsMark_map gives_param

theorem gives_propertyItem (p : PropertyItem) (d : Nat) :
    (propertyItemText p d).Gives (OccurInOrder (Expr.optMarks p.default d)) :=
  (gives_defaultAfter p.default d).bind fun _ hd => .pure (hd.after _)

theorem gives_constItem (c : ConstItem) (d : Nat) :
    (constItemText c d).Gives (OccurInOrder (Expr.optMarks c.value d)) := by
  rw [constItemText]
  cases c.value with
  | none => exact .malformed
  | some e => exact (gives_expr e d).bind fun text ht => .pure (ht.after _)

theorem gives_property (p : Property) : (propertyText p d).Gives (OccurInOrder (p.marks d)) := by
  rw [propertyText, Property.marks]
  by_cases hn : p.items.isEmpty = true
  · rw [if_pos hn]
    exact .malformed
  · rw [if_neg hn]
    refine (gives_attrLines p.attrGroups).bind fun attrs ha => Gives.any.bind fun type _ => ?_
    refine (gives_commaSeparated_map PropertyItem.comments gives_propertyItem).bind
      fun items hi => .pure ?_
    exact (((ha.before _).before _).append hi).before _

theorem gives_constants (c : Constants) : (constantsText c d).Gives (OccurInOrder (c.marks d)) := by
  rw [constantsText, Constants.marks]
  split_ifs
  · exact .malformed
  · refine (gives_attrLines c.attrGroups).bind fun attrs ha => ?_
    refine (gives_commaSeparated_map ConstItem.comments gives_constItem).bind
      fun items hi => .pure ?_
    exact (((ha.before _).before _).append hi).before _

/-- **The marks of a signature occur in its text**, those of the parameters at the depth that their
layout gives them. -/
theorem gives_signature (style : Style) (c : Callable) (d : Nat) :
    (c.signature style d).Gives fun p => OccurInOrder (c.marks style d) p.1 := by
  rintro ⟨sig, layout⟩ h
  obtain ⟨attrs, list, ret, ha, hr, hl, rfl⟩ := Callable.signature_eq_ok h
  have hask := asked_of_readable (readable_paramItems c.params)
  obtain ⟨layout', hc, hp⟩ := style.result_paramList hask (columnAfter d (attrs ++ c.words))
    (Text.width ret) d
  rw [hl] at hp
  obtain ⟨text, ht, hp⟩ := result_bind_eq_ok.mp hp.symm
  cases hp
  rw [Callable.marks, Callable.layout_of_signature h]
  have hlist := gives_written (itemsMark_params c.params) hc list ht
  have hattrs := gives_attrLines c.attrGroups attrs ha
  exact ((((hattrs.before _).before _).append hlist).before _).before _

end Parts

/-! ## Statements -/

theorem occur_spaced {marks : List Mark} {text : String} (h : OccurInOrder marks text) :
    OccurInOrder marks (spaced text) := by
  rw [spaced]
  split_ifs with he
  · rwa [he] at h
  · exact h.after _

/-- A method or a function, given the marks of its body. -/
theorem gives_callable {style : Style} {s : Stmt} {c : Callable} {d : Nat} {inside : List Mark}
    (hs : s.callable? = some c) (hn : c.body = none → inside = [])
    (hb : ∀ stmts, c.body = some stmts →
      (style.body (members style stmts) (d + 1 : Nat)).Gives (OccurInOrder inside)) :
    (s.render style d).Gives (OccurInOrder (c.marks style d ++ inside)) := by
  intro text h
  obtain ⟨sig, layout, ending, hsig, he, rfl⟩ := Stmt.render_callable hs h
  have hmarks := gives_signature style c d _ hsig
  refine hmarks.append ?_
  unfold Callable.Ending at he
  cases hbody : c.body with
  | none =>
    rw [hn hbody]
    trivial
  | some stmts =>
    rw [hbody] at he
    obtain ⟨inner, hi, rfl⟩ := he
    exact (((hb stmts hbody inner hi).after _).before _).before _

theorem Stmt.marks_of_isNop (style : Style) : ∀ {s : Stmt}, s.isNop = true → ∀ d : Nat,
    s.marks style d = []
  | .nop _, _, _ => by rw [Stmt.marks]

mutual

/-- **The marks of a statement occur in its text.** -/
theorem gives_stmt (style : Style) : ∀ (s : Stmt) (d : Nat),
    (s.render style d).Gives (OccurInOrder (s.marks style d))
  | .classDecl head stmts, d => by
    rw [Stmt.render, Stmt.marks, newline_natCast]
    refine (gives_attrLines head.attrGroups).bind fun attrs ha => ?_
    refine (Gives.within (gives_body (d := d + 1) style (membersMark style stmts)) _).bind
      fun inner hi => .pure ?_
    exact (((((ha.before _).before _).before _).append hi).before _).before _ |>.before _
  | .method head none, d => by
    rw [Stmt.marks, ← List.append_nil ((head.callable none).marks style d)]
    exact gives_callable rfl (fun _ => rfl) nofun
  | .method head (some stmts), d => by
    rw [Stmt.marks]
    refine gives_callable rfl nofun fun body hb => ?_
    cases hb
    exact gives_body style (membersMark style stmts)
  | .function head stmts, d => by
    rw [Stmt.marks]
    refine gives_callable rfl nofun fun body hb => ?_
    cases hb
    exact gives_body style (membersMark style stmts)
  | .property decl, d => by
    rw [Stmt.render, Stmt.marks]
    exact gives_property decl
  | .constants decl, d => by
    rw [Stmt.render, Stmt.marks]
    exact gives_constants decl
  | .traitUse decl, d => fun _ _ => by
    rw [Stmt.marks]
    trivial
  | .expression _ expr, d => by
    rw [Stmt.render, Stmt.marks]
    exact (gives_exprText expr d).bind fun text ht => .pure (ht.before _)
  | .ret _ none, d => by
    rw [Stmt.render, Stmt.marks]
    exact .pure trivial
  | .ret _ (some e), d => by
    rw [Stmt.render, Stmt.marks]
    exact (gives_expr e d).bind fun text ht => .pure ((ht.after _).before _)
  | .forLoop head stmts, d => by
    rw [Stmt.render, Stmt.marks, ForHead.marks, newline_natCast]
    refine (gives_exprItems head.init).bind fun init hi => ?_
    refine (gives_exprItems head.cond).bind fun cond hc => ?_
    refine (gives_exprItems head.loop).bind fun loop hl => ?_
    refine (gives_body (d := d + 1) style (membersMark style stmts)).bind fun inner hs => .pure ?_
    have hinit := (hi.after "for (").before ";"
    have hcond := (hinit.append (occur_spaced hc)).before ";"
    have hloop := (hcond.append (occur_spaced hl)).before ") \x7b"
    exact ((hloop.append hs).before _).before _
  | .nop _, d => by
    rw [Stmt.render, Stmt.marks]
    exact .pure trivial
  | .foreign _ _ _, d => by
    rw [Stmt.render]
    exact .malformed

theorem membersMark (style : Style) : ∀ stmts : List (Option Stmt),
    MembersMark (members style stmts) (Stmt.listMarks style stmts)
  | [] => .nil
  | none :: _ => .missing
  | some s :: rest =>
    .cons rfl (Stmt.marks_of_isNop style) (gives_stmt style s) (membersMark style rest)

end

/-- **Comments and string literals survive printing.** A well-formed list of statements has a text
in every style; all its comments in front of statements, parameters, arguments and array elements
and all its string literals occur in it in reading order, and no other comment matters. -/
theorem prettyPrint_marks (style : Style) {stmts : List (Option Stmt)}
    (h : Stmt.allWellFormed stmts = true) :
    (∃ text, (prettyPrint style stmts).result = .ok text ∧
      OccurInOrder (Stmt.listMarks style stmts 0) text) ∧
    ∀ stmts', Stmt.listQuiet stmts' = Stmt.listQuiet stmts →
      prettyPrint style stmts' = prettyPrint style stmts := by
  refine ⟨?_, fun stmts' hq => ?_⟩
  · rw [← succeeds_prettyPrint style, succeeds_iff] at h
    obtain ⟨text, ht⟩ := h
    have hg : (prettyPrint style stmts).Gives (OccurInOrder (Stmt.listMarks style stmts 0)) :=
      (gives_body style (membersMark style stmts)).bind fun body hb => .pure hb.dropMargin
    exact ⟨text, ht, hg text ht⟩
  · rw [← prettyPrint_quiet, hq, prettyPrint_quiet]

/-- A commented call with a commented argument: the comments stand at two depths, the line break in
the literal is untouched, and a comment on the call itself does not matter. -/
theorem prettyPrint_marks_commented_argument :
    (∃ text, (prettyPrint (.extended .standard) [some (.expression [.line "a"] (some (.call [] "f"
        [.mk [.doc "b\n* c"] (some (.string [] "x\n  y")) false])))]).result = .ok text ∧
      OccurInOrder [.comment (.line "a") 0, .comment (.doc "b\n* c") 1, .literal "x\n  y"] text) ∧
    prettyPrint (.extended .standard) [some (.expression [.line "a"] (some (.call [.line "d"] "f"
        [.mk [.doc "b\n* c"] (some (.string [] "x\n  y")) false])))] =
      prettyPrint (.extended .standard) [some (.expression [.line "a"] (some (.call [] "f"
        [.mk [.doc "b\n* c"] (some (.string [] "x\n  y")) false])))] := by
  have h := @prettyPrint_marks (.extended .standard) [some (.expression [.line "a"]
    (some (.call [] "f" [.mk [.doc "b\n* c"] (some (.string [] "x\n  y")) false])))] rfl
  exact ⟨h.1, h.2 _ rfl⟩

end PhpDecl
