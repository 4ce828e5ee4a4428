import PhpDecl.Proofs.Likeness
import PhpDecl.Proofs.WellFormed

/-!
# Comparing two styles

A likeness of texts extends to statements as soon as the two styles in which they are rendered
make alike choices for parameter lists and for bodies.

* `Likeness.MemberAlike`, `Likeness.alike_compactBody`: bodies written the same way;
* `nullText_of_isRead`, `Likeness.alike_nullText`: null pointers;
* `StyleLikeness`: a likeness together with two styles that choose alike;
* `StyleLikeness.alike_signature`, **`StyleLikeness.alike_stmt`**, **`StyleLikeness.alike_node`**:
  declarations, statements and any element, rendered in the two styles.
-/

namespace PhpDecl

open Traced

/-! ## Bodies -/

namespace Likeness

variable (L : Likeness) {d e : Nat}

/-- Two members with the same comments, which can be read, the same kind and like texts, or both
missing. A member that only carries comments has no text of its own. -/
inductive MemberAlike : Option Member → Option Member → Prop
  | missing : MemberAlike none none
  | present {m n : Member} {cs : List Comment} (left : m.comments = some cs)
    (right : n.comments = some cs) (kind : m.kind = n.kind)
    (nop : m.isNop = n.isNop)
    (silent : m.isNop = true → ∀ depth, (m.text depth).result = .ok "" ∧
      (n.text depth).result = .ok "")
    (text : ∀ {d e : Nat}, L.Depths d e → Alike L.Texts (m.text d) (n.text e)) :
    MemberAlike (some m) (some n)

variable {L} {ms ns : List (Option Member)}

theorem alike_compactBody (h : List.Forall₂ L.MemberAlike ms ns) (hd : L.Depths d e) :
    Alike L.Texts (compactBody ms d) (compactBody ns e) := by
  induction h with
  | nil => exact .pure (L.plain (by decide))
  | cons hmn _ ih =>
    cases hmn with
    | missing => exact .malformed _
    | @present m n cs hm hn _ hnop _ ht =>
      rw [compactBody, compactBody, hm, hn, hnop, readComments_some_bind, readComments_some_bind]
      refine (L.alike_leadingComments cs hd).bind fun a a' ha => ?_
      split_ifs
      · exact ih.bind fun r r' hr => .pure (L.append ha hr)
      · refine (ht hd).bind fun t t' htext => ?_
        refine (L.alike_newline hd).bind fun b b' hb => ?_
        exact ih.bind fun r r' hr => .pure (L.append (L.append (L.append ha hb) htext) hr)

end Likeness

/-! ## Null pointers -/

theorem nullText_of_isRead {t : NodeType} (h : t.isRead = true) :
    t.nullText = .fail .nullPointer := by
  unfold NodeType.nullText
  split
  · cases h
  · cases h
  · cases h
  · rfl

theorem result_of_isBroken {n : Option Node} (h : Node.isBroken n = true) (style : Style)
    (depth : Int) : (nodeText style n depth).result = .error .nullPointer := by
  unfold Node.isBroken at h
  split at h
  · exact congrArg result (nullText_of_isRead h)
  · cases h

/-- An element that has a text can be rendered. -/
theorem isBroken_eq_false {n : Option Node} {style : Style} {depth : Int} {text : String}
    (h : (nodeText style n depth).result = .ok text) : Node.isBroken n = false := by
  refine Bool.eq_false_iff.mpr fun hn => ?_
  rw [result_of_isBroken hn] at h
  cases h

theorem Likeness.alike_nullText (L : Likeness) {t : NodeType} (h : t.isRead = false) :
    Alike L.Texts t.nullText t.nullText := by
  unfold NodeType.nullText
  split
  · exact .malformed _
  · exact .pure (L.plain (by decide))
  · exact .malformed _
  · simp [NodeType.isRead] at h

/-! ## Statements -/

theorem Stmt.render_of_isNop : ∀ {s : Stmt}, s.isNop = true → ∀ (style : Style) (depth : Int),
    s.render style depth = pure ""
  | .nop _, _, _, _ => by rw [Stmt.render]

theorem none_not_mem_paramItems (ps : List Param) : none ∉ paramItems ps := by
  simp [paramItems]

/-- A likeness of texts together with two styles whose parameter lists, up to the closing
parenthesis, and bodies are alike. A parameter is never missing. -/
structure StyleLikeness extends Likeness where
  first : Style
  second : Style
  Layouts : Layout → Layout → Prop
  opening {d e : Nat} {l m : Layout} : Depths d e → Layouts l m →
    Texts (opener l (lineBreak d)) (opener m (lineBreak e))
  spacing {a b : String} : Texts a b → Texts (spaced a) (spaced b)
  trailer : Texts first.classTrailer second.classTrailer
  params {is js : List (Option Item)} {d e : Nat} (column tail column' tail' : Int) :
    none ∉ is → none ∉ js → List.Forall₂ toLikeness.ItemAlike is js → Depths d e →
    Alike (fun p q => Texts (p.1 ++ ")") (q.1 ++ ")") ∧ Layouts p.2 q.2)
      (first.paramList is column tail d) (second.paramList js column' tail' e)
  bodies {ms ns : List (Option Member)} {d e : Nat} :
    List.Forall₂ toLikeness.MemberAlike ms ns → Depths d e →
    Alike Texts (first.body ms d) (second.body ns e)

namespace StyleLikeness

variable (L : StyleLikeness)

/-- Like signatures, with layouts that open a body alike. -/
def SigAlike (p q : String × Layout) : Prop := L.Texts p.1 q.1 ∧ L.Layouts p.2 q.2

theorem alike_signature {lead lead' : String} {params : List Param} {returns : Option TypeExpr}
    {d e : Nat} (hlead : L.Texts lead lead') (hp : ∀ s ∈ params.flatMap Param.texts, L.Leaf s)
    (hr : ∀ s ∈ TypeExpr.optTexts returns, L.Leaf s) (hd : L.Depths d e) :
    Alike L.SigAlike (signature L.first lead params returns d)
      (signature L.second lead' params returns e) := by
  rw [signature, signature]
  refine (L.alike_returnAfter returns hr).bind fun r r' hret => ?_
  have hl := L.params (columnAfter d lead) (Text.width r) (columnAfter e lead') (Text.width r')
    (none_not_mem_paramItems params) (none_not_mem_paramItems params)
    (L.alike_paramItems params hp) hd
  refine hl.bind fun p q hpq => .pure ⟨?_, hpq.2⟩
  change L.Texts (lead ++ "(" ++ p.1 ++ ")" ++ r) (lead' ++ "(" ++ q.1 ++ ")" ++ r')
  have h := L.append (L.append (L.append hlead (L.plain (s := "(") (by decide))) hpq.1) hret
  simpa only [String.append_assoc] using h

/-- The end of a declaration: the opening brace, a body and the closing brace. -/
theorem like_block {sig sig' inner inner' : String} {l m : Layout} {d e : Nat}
    (hsig : L.Texts sig sig') (hlm : L.Layouts l m) (hi : L.Texts inner inner')
    (hd : L.Depths d e) :
    L.Texts (sig ++ opener l (lineBreak d) ++ inner ++ lineBreak d ++ "\x7d")
      (sig' ++ opener m (lineBreak e) ++ inner' ++ lineBreak e ++ "\x7d") :=
  L.append (L.append (L.append (L.append hsig (L.opening hd hlm)) hi) (L.breaks hd))
    (L.plain (by decide))

/-- The rest of a method or a function after its attributes and its lead: signature and body. -/
theorem alike_callable {lead lead' : String} {params : List Param} {returns : Option TypeExpr}
    {ms ns : List (Option Member)} {d e : Nat} (wrap : TreeError → TreeError)
    (hlead : L.Texts lead lead') (hp : ∀ s ∈ params.flatMap Param.texts, L.Leaf s)
    (hr : ∀ s ∈ TypeExpr.optTexts returns, L.Leaf s)
    (hm : List.Forall₂ L.MemberAlike ms ns) (hd : L.Depths d e) :
    Alike L.Texts
      (do
        let (sig, layout) ← (signature L.first lead params returns d).within wrap
        let inner ← (L.first.body ms (d + 1)).within wrap
        let nl ← newline d
        return sig ++ opener layout nl ++ inner ++ nl ++ "\x7d")
      (do
        let (sig, layout) ← (signature L.second lead' params returns e).within wrap
        let inner ← (L.second.body ns (e + 1)).within wrap
        let nl ← newline e
        return sig ++ opener layout nl ++ inner ++ nl ++ "\x7d") := by
  refine ((L.alike_signature hlead hp hr hd).within wrap).bind fun p q hpq => ?_
  refine ((L.bodies hm (L.deeper hd)).within wrap).bind fun b b' hb => ?_
  rw [newline_natCast, newline_natCast]
  exact .pure (L.like_block hpq.1 hpq.2 hb hd)

mutual

/-- **A statement in two styles whose choices are alike.** -/
theorem alike_stmt : ∀ (s : Stmt), (∀ t ∈ s.texts, L.Leaf t) → ∀ {d e : Nat}, L.Depths d e →
    Alike L.Texts (s.render L.first d) (s.render L.second e)
  | .classDecl head stmts, hl, d, e, hd => by
    rw [Stmt.texts, List.forall_mem_append] at hl
    have ha : ∀ s ∈ head.attrGroups.flatMap AttrGroup.texts, L.Leaf s := fun s hs =>
      hl.1 s (by simp [ClassHead.texts, List.mem_flatMap.mp hs])
    rw [Stmt.render, Stmt.render]
    refine (L.alike_attrLines head.attrGroups ha hd).bind fun a a' hattrs => ?_
    refine ((L.bodies (alike_members stmts hl.2) (L.deeper hd)).within _).bind fun b b' hb => ?_
    rw [newline_natCast, newline_natCast]
    refine .pure (L.append ?_ L.trailer)
    have h1 := L.append (L.append (L.append hattrs (L.like_classHead head hl.1)) (L.breaks hd))
      (L.plain (s := "\x7b") (by decide))
    exact L.append (L.append (L.append h1 hb) (L.breaks hd)) (L.plain (by decide))
  | .method head none, hl, d, e, hd => by
    simp only [Stmt.texts, MethodHead.texts, List.cons_append, List.forall_mem_cons,
      List.forall_mem_append] at hl
    obtain ⟨hname, ⟨hp, hr⟩, ha⟩ := hl
    rw [Stmt.render, Stmt.render]
    split_ifs
    · exact .malformed _
    · refine (L.alike_attrLines head.attrGroups ha hd).bind fun a a' hattrs => ?_
      have hlead := L.append (L.append (L.append (L.append hattrs (L.plain head.flags.plain_text))
        (L.plain (s := "function ") (by decide)))
          (L.plain (Likeness.plain_refMark head.byRef))) (L.leaf hname)
      refine ((L.alike_signature hlead hp hr hd).within _).bind fun p q hpq => .pure ?_
      exact L.append hpq.1 (L.plain (by decide))
  | .method head (some stmts), hl, d, e, hd => by
    simp only [Stmt.texts, MethodHead.texts, List.cons_append, List.forall_mem_cons,
      List.forall_mem_append] at hl
    obtain ⟨hname, ⟨⟨hp, hr⟩, ha⟩, hs⟩ := hl
    rw [Stmt.render, Stmt.render]
    split_ifs
    · exact .malformed _
    · refine (L.alike_attrLines head.attrGroups ha hd).bind fun a a' hattrs => ?_
      have hlead := L.append (L.append (L.append (L.append hattrs (L.plain head.flags.plain_text))
        (L.plain (s := "function ") (by decide)))
          (L.plain (Likeness.plain_refMark head.byRef))) (L.leaf hname)
      exact L.alike_callable _ hlead hp hr (alike_members stmts hs) hd
  | .function head stmts, hl, d, e, hd => by
    simp only [Stmt.texts, FunctionHead.texts, List.cons_append, List.forall_mem_cons,
      List.forall_mem_append] at hl
    obtain ⟨hname, ⟨⟨hp, hr⟩, ha⟩, hs⟩ := hl
    rw [Stmt.render, Stmt.render]
    split_ifs
    · exact .malformed _
    · refine (L.alike_attrLines head.attrGroups ha hd).bind fun a a' hattrs => ?_
      have hlead := L.append (L.append (L.append hattrs (L.plain (s := "function ") (by decide)))
          (L.plain (Likeness.plain_refMark head.byRef))) (L.leaf hname)
      exact L.alike_callable _ hlead hp hr (alike_members stmts hs) hd
  | .property decl, hl, _, _, hd => by
    rw [Stmt.render, Stmt.render]
    exact L.alike_property decl hl hd
  | .constants decl, hl, _, _, hd => by
    rw [Stmt.render, Stmt.render]
    exact L.alike_constants decl hl hd
  | .traitUse decl, hl, _, _, _ => by
    rw [Stmt.render, Stmt.render]
    exact L.alike_traitUse decl hl
  | .expression _ expr, hl, _, _, hd => by
    rw [Stmt.render, Stmt.render]
    exact (L.alike_exprText expr hl hd).bind fun a b hab =>
      .pure (L.append hab (L.plain (by decide)))
  | .ret _ none, _, _, _, _ => by
    rw [Stmt.render, Stmt.render]
    exact .pure (L.plain (by decide))
  | .ret _ (some x), hl, _, _, hd => by
    rw [Stmt.render, Stmt.render]
    refine (L.alike_expr x hl hd).bind fun a b hab => .pure ?_
    exact L.append (L.append (L.plain (by decide)) hab) (L.plain (by decide))
  | .forLoop head stmts, hl, d, e, hd => by
    simp only [Stmt.texts, ForHead.texts, List.forall_mem_append] at hl
    obtain ⟨⟨⟨hi, hc⟩, hlp⟩, hs⟩ := hl
    rw [Stmt.render, Stmt.render]
    refine (Likeness.alike_commaSeparated (L.alike_exprItems _ hi) hd).bind fun i i' hinit => ?_
    refine (Likeness.alike_commaSeparated (L.alike_exprItems _ hc) hd).bind fun c c' hcond => ?_
    refine (Likeness.alike_commaSeparated (L.alike_exprItems _ hlp) hd).bind fun l l' hloop => ?_
    refine (L.bodies (alike_members stmts hs) (L.deeper hd)).bind fun b b' hb => ?_
    rw [newline_natCast, newline_natCast]
    have h1 := L.append (L.append (L.append (L.plain (s := "for (") (by decide)) hinit)
      (L.plain (s := ";") (by decide))) (L.spacing hcond)
    have h2 := L.append (L.append (L.append h1 (L.plain (s := ";") (by decide))) (L.spacing hloop))
      (L.plain (s := ") \x7b") (by decide))
    exact .pure (L.append (L.append (L.append h2 hb) (L.breaks hd)) (L.plain (by decide)))
  | .nop _, _, _, _, _ => by
    rw [Stmt.render, Stmt.render]
    exact .pure (L.plain (by decide))
  | .foreign _ _ _, _, _, _, _ => by
    rw [Stmt.render, Stmt.render]
    exact .malformed _

theorem alike_members : ∀ (stmts : List (Option Stmt)), (∀ t ∈ Stmt.listTexts stmts, L.Leaf t) →
    List.Forall₂ L.MemberAlike (members L.first stmts) (members L.second stmts)
  | [], _ => .nil
  | s :: rest, hl => by
    rw [Stmt.listTexts, List.forall_mem_append] at hl
    exact .cons (alike_member s hl.1) (alike_members rest hl.2)

theorem alike_member : ∀ (s : Option Stmt), (∀ t ∈ Stmt.optTexts s, L.Leaf t) →
    L.MemberAlike (member L.first s) (member L.second s)
  | none, _ => .missing
  | some s, hl => by
    refine .present rfl rfl rfl rfl (fun h depth => ?_) (alike_stmt s hl)
    exact ⟨congrArg result (Stmt.render_of_isNop h L.first depth),
      congrArg result (Stmt.render_of_isNop h L.second depth)⟩

end

/-- **Any element in two styles whose choices are alike**, if it can be rendered at all. -/
theorem alike_node {n : Option Node} (hn : Node.isBroken n = false)
    (hl : ∀ m ∈ n, ∀ t ∈ m.texts, L.Leaf t) {d e : Nat} (hd : L.Depths d e) :
    Alike L.Texts (nodeText L.first n d) (nodeText L.second n e) := by
  cases n with
  | none => exact .malformed _
  | some n =>
    have hl := hl n rfl
    rw [nodeText, nodeText]
    match n with
    | .stmt s => exact L.alike_stmt s hl hd
    | .expr x => exact L.alike_expr x hl hd
    | .type t => exact L.alike_type t hl
    | .param p => exact L.alike_param p hl hd
    | .propertyItem p => exact L.alike_propertyItem p hl hd
    | .constItem c => exact L.alike_constItem c hl hd
    | .attrGroup g => exact L.alike_attrGroup g hl hd
    | .attribute a => exact L.alike_attribute a hl hd
    | .arg a => exact L.alike_arg a hl hd
    | .arrayItem i => exact L.alike_arrayItem i hl hd
    | .null t => exact L.alike_nullText hn
    | .foreign _ _ => exact .malformed _

end StyleLikeness

end PhpDecl
