import Mathlib.Algebra.GroupWithZero.Nat
import PhpDecl.Proofs.Callable
import PhpDecl.Proofs.Margin
import PhpDecl.Proofs.Members
import PhpDecl.Proofs.Verdict
import PhpDecl.SourceFile

/-!
# Blank lines of a printed file

The empty lines of a printed file are those of the prologue, one between any two members of a body
that is set apart, and one after every nested class.

* `Stmt.bodies`, `Stmt.classes`: the bodies and the classes of a tree;
* `Stmt.separators`, `Stmt.gapCount`: the blank lines between the members of a body, and those of a
  statement;
* `gives_compactBody_gaps`, `gives_memberBlocks_gaps`, **`gives_body_gaps`**: bodies;
* `gives_signature_gaps`, **`gives_stmt_gaps`**: statements below the left margin;
* **`printFile_emptyLines`**: a printed class.
-/

namespace PhpDecl

open Traced

/-! ## Bodies and classes of a tree -/

mutual

/-- The bodies in a statement. -/
def Stmt.bodies : Stmt → List (List (Option Stmt))
  | .classDecl _ members => members :: Stmt.listBodies members
  | .method _ none => []
  | .method _ (some body) => body :: Stmt.listBodies body
  | .function _ body => body :: Stmt.listBodies body
  | .forLoop _ body => body :: Stmt.listBodies body
  | .property _ => []
  | .constants _ => []
  | .traitUse _ => []
  | .expression _ _ => []
  | .ret _ _ => []
  | .nop _ => []
  | .foreign _ _ _ => []

/-- The bodies in the statements of a body. -/
def Stmt.listBodies : List (Option Stmt) → List (List (Option Stmt))
  | [] => []
  | none :: rest => Stmt.listBodies rest
  | some s :: rest => s.bodies ++ Stmt.listBodies rest

end

mutual

/-- The number of classes in a statement, which may be one itself. -/
def Stmt.classes : Stmt → Nat
  | .classDecl _ members => Stmt.listClasses members + 1
  | .method _ none => 0
  | .method _ (some body) => Stmt.listClasses body
  | .function _ body => Stmt.listClasses body
  | .forLoop _ body => Stmt.listClasses body
  | .property _ => 0
  | .constants _ => 0
  | .traitUse _ => 0
  | .expression _ _ => 0
  | .ret _ _ => 0
  | .nop _ => 0
  | .foreign _ _ _ => 0

/-- The number of classes in the statements of a body. -/
def Stmt.listClasses : List (Option Stmt) → Nat
  | [] => 0
  | none :: rest => Stmt.listClasses rest
  | some s :: rest => s.classes + Stmt.listClasses rest

end

namespace Stmt

/-- The blank lines between the members of a body: one less than there are members that show
anything, if the members are set apart. -/
def separators (stmts : List (Option Stmt)) : Nat := if setApart stmts then shown stmts - 1 else 0

/-- The blank lines in a statement and right after it. -/
def gapCount (s : Stmt) : Nat := (s.bodies.map separators).sum + s.classes

/-- The blank lines in the statements of a body and right after them. -/
def listGapCount (stmts : List (Option Stmt)) : Nat :=
  ((listBodies stmts).map separators).sum + listClasses stmts

theorem listGapCount_cons (s : Stmt) (rest : List (Option Stmt)) :
    listGapCount (some s :: rest) = s.gapCount + listGapCount rest := by
  simp only [listGapCount, gapCount, listBodies, listClasses, List.map_append, List.sum_append]
  omega

theorem gapCount_of_isNop : ∀ {s : Stmt}, s.isNop = true → s.gapCount = 0
  | .nop _, _ => rfl

/-- The blank lines of a body, and of its members. -/
theorem sum_separators (stmts : List (Option Stmt)) :
    ((stmts :: listBodies stmts).map separators).sum + listClasses stmts =
      separators stmts + listGapCount stmts := by
  rw [List.map_cons, List.sum_cons, Nat.add_assoc, listGapCount]

theorem shown_cons (s : Stmt) (rest : List (Option Stmt)) :
    shown (some s :: rest) = (if s.isNop && s.comments.isEmpty then 0 else 1) + shown rest := by
  rw [shown, List.countP_cons, ← shown, Option.any_some, Nat.add_comm]
  cases s.isNop && s.comments.isEmpty <;> rfl

end Stmt

/-! ## Bodies -/

section Bodies

variable {d : Nat} {stmts : List (Option Stmt)}

theorem bodyGaps_commentLines (hd : 0 < d) (cs : List Comment) :
    BodyGaps 0 (commentLines cs d) := by
  refine ⟨?_, (hasGaps_commentLines cs (.inl hd)).above⟩
  cases cs with
  | nil => nofun
  | cons c cs =>
    rw [commentLines_cons, String.append_assoc, lineBreak, String.append_assoc]
    exact starts_break _

/-- A member on a new line below its comments. -/
theorem bodyGaps_member (hd : 0 < d) (cs : List Comment) {n : Nat} {text : String}
    (h : HasGapsAbove n text) : BodyGaps n (commentLines cs d ++ lineBreak d ++ text) := by
  have hc := bodyGaps_commentLines hd cs
  constructor
  · rw [String.append_assoc, lineBreak, String.append_assoc]
    exact starts_append hc.starts (starts_break _)
  · have hl := ((hasGaps_commentLines cs (.inl hd)).append (hasGaps_lineBreak hd)).append_above h
    rwa [Nat.zero_add] at hl

variable (hd : 0 < d)
  (h : ∀ s, some s ∈ stmts → (s.render defaultStyle d).Gives (HasGapsAbove s.gapCount))
include hd h

theorem gives_compactBody_gaps :
    (compactBody (members defaultStyle stmts) d).Gives (BodyGaps (Stmt.listGapCount stmts)) := by
  induction stmts with
  | nil => exact .pure .empty
  | cons s stmts ih =>
    have hrest := ih fun s hs => h s (List.mem_cons_of_mem _ hs)
    cases s with
    | none => exact .malformed
    | some s =>
      rw [members, member, compactBody, newline_natCast, Stmt.listGapCount_cons]
      refine Gives.congr ?_ (result_bind_ok (result_leadingComments s.comments d) _)
      dsimp only
      split_ifs with hn
      · rw [Bool.and_eq_true] at hn
        rw [Stmt.gapCount_of_isNop hn.1]
        exact hrest.bind fun more hm => .pure ((bodyGaps_commentLines hd s.comments).append hm)
      · refine (h s List.mem_cons_self).bind fun text ht => hrest.bind fun more hm => .pure ?_
        exact (bodyGaps_member hd s.comments ht).append hm

theorem gives_memberBlocks_gaps :
    (memberBlocks (members defaultStyle stmts) d).Gives fun blocks =>
      blocks.length = Stmt.shown stmts ∧ BlocksGap (Stmt.listGapCount stmts) blocks := by
  induction stmts with
  | nil => exact .pure ⟨rfl, .nil⟩
  | cons s stmts ih =>
    have hrest := ih fun s hs => h s (List.mem_cons_of_mem _ hs)
    cases s with
    | none => exact .malformed
    | some s =>
      rw [members, member, memberBlocks, newline_natCast, Stmt.listGapCount_cons, Stmt.shown_cons]
      refine Gives.congr ?_ (result_bind_ok (result_leadingComments s.comments d) _)
      dsimp only
      by_cases hn : s.isNop = true
      · rw [if_pos hn, Stmt.gapCount_of_isNop hn, isEmpty_commentLines]
        refine hrest.bind fun more hm => .pure ?_
        -- a block of its comments, or no block at all
        cases hc : s.comments.isEmpty
        · exact ⟨by simp [hm.1, Nat.add_comm], .cons (bodyGaps_commentLines hd s.comments) hm.2⟩
        · rw [hn, Nat.zero_add]
          exact ⟨by simp [hm.1], hm.2⟩
      · rw [if_neg hn]
        refine (h s List.mem_cons_self).bind fun text ht => hrest.bind fun more hm => .pure ?_
        exact ⟨by simp [hn, hm.1, Nat.add_comm], .cons (bodyGaps_member hd s.comments ht) hm.2⟩

/-- **The blank lines of a body.** -/
theorem gives_body_gaps :
    (defaultStyle.body (members defaultStyle stmts) d).Gives
      (BodyGaps (Stmt.separators stmts + Stmt.listGapCount stmts)) := by
  rw [defaultStyle, Style.body, ← defaultStyle, separated_members, Stmt.separators]
  split_ifs
  · refine Gives.congr ?_ (result_note_bind _ _)
    refine (gives_memberBlocks_gaps hd h).bind fun blocks hb => .pure ?_
    rw [← hb.1, Nat.add_comm]
    exact hb.2.intercalate
  · rw [Nat.zero_add]
    exact gives_compactBody_gaps hd h

end Bodies

/-! ## Statements below the left margin -/

section Statements

variable {d : Nat}

/-- **A signature adds no gaps.** -/
theorem gives_signature_gaps {c : Callable} (hl : ∀ t ∈ c.lineTexts, '\n' ∉ t.toList)
    (ha : ∀ t ∈ c.attrGroups.flatMap AttrGroup.texts, '\n' ∉ t.toList) (hd : 0 < d) :
    (c.signature defaultStyle d).Gives fun p => HasGaps 0 p.1 := by
  simp only [Callable.lineTexts, List.cons_append, List.forall_mem_cons,
    List.forall_mem_append] at hl
  obtain ⟨hname, hparams, hreturns⟩ := hl
  rintro ⟨sig, layout⟩ h
  obtain ⟨attrs, list, ret, hattrs, hret, hlist, rfl⟩ := Callable.signature_eq_ok h
  have hask := asked_of_readable (readable_paramItems c.params)
  obtain ⟨layout', _, hp⟩ := defaultStyle.result_paramList hask
    (columnAfter d (attrs ++ c.words)) (Text.width ret) d
  rw [hlist] at hp
  obtain ⟨text, hw, hp⟩ := result_bind_eq_ok.mp hp.symm
  cases hp
  have hitems := marginless.alike_paramItems c.params hparams
  have hgaps : HasGaps 0 list := by
    cases layout with
    | singleLine => exact gives_marginless (Likeness.alike_commaSeparated hitems ⟨rfl, hd⟩) _ hw
    | multiLine => exact gives_marginless (Likeness.alike_multilineBlock true hitems ⟨rfl, hd⟩) _ hw
  have hwords : HasGaps 0 c.words := by
    have hf := HasGaps.of_oneLine (Text.newline_not_mem_of_plain c.flags.plain_text)
    have hr := HasGaps.of_oneLine (Text.newline_not_mem_of_plain (Likeness.plain_refMark c.byRef))
    exact ((hf.append (.of_oneLine (by decide))).append hr).append (.of_oneLine hname)
  have habove := gives_marginless (marginless.alike_attrLines c.attrGroups ha ⟨rfl, hd⟩) _ hattrs
  have hafter := gives_marginless (marginless.alike_returnAfter c.returns hreturns) _ hret
  have hopen := ((habove.append hwords).append (.of_oneLine (s := "(") (by decide))).append hgaps
  exact (hopen.append (.of_oneLine (by decide))).append hafter

theorem hasGaps_opener (layout : Layout) (d : Nat) : HasGaps 0 (opener layout (lineBreak d)) := by
  cases layout with
  | singleLine => exact @hasGaps_line d ['\x7b'] (by decide) (.inr (by decide))
  | multiLine => exact HasGaps.of_oneLine (s := " \x7b") (by decide)

/-- A method or a function, given the gaps of its body. -/
theorem gives_callable_gaps {s : Stmt} {c : Callable} {n : Nat} (hs : s.callable? = some c)
    (hl : ∀ t ∈ c.lineTexts, '\n' ∉ t.toList)
    (ha : ∀ t ∈ c.attrGroups.flatMap AttrGroup.texts, '\n' ∉ t.toList) (hd : 0 < d)
    (hn : c.body = none → n = 0)
    (hb : ∀ stmts, c.body = some stmts →
      (defaultStyle.body (members defaultStyle stmts) (d + 1 : Nat)).Gives (BodyGaps n)) :
    (s.render defaultStyle d).Gives (HasGapsAbove n) := by
  intro text h
  obtain ⟨sig, layout, ending, hsig, he, rfl⟩ := Stmt.render_callable hs h
  have hgaps := gives_signature_gaps hl ha hd _ hsig
  unfold Callable.Ending at he
  cases hbody : c.body with
  | none =>
    rw [hbody] at he
    rw [he, hn hbody]
    exact (hgaps.append (.of_oneLine (by decide))).above
  | some stmts =>
    rw [hbody] at he
    obtain ⟨inner, hi, rfl⟩ := he
    have h := hasGaps_block (hgaps.append (hasGaps_opener layout d)) (hb stmts hbody inner hi) d
    simp only [String.append_assoc] at h ⊢
    exact h.above

mutual

/-- **The blank lines of a statement below the left margin.** -/
theorem gives_stmt_gaps : ∀ s : Stmt, (∀ t ∈ s.texts, '\n' ∉ t.toList) → ∀ {d : Nat}, 0 < d →
    (s.render defaultStyle d).Gives (HasGapsAbove s.gapCount)
  | .classDecl head stmts, hl, d, hd => by
    rw [Stmt.texts, List.forall_mem_append] at hl
    have ha : ∀ t ∈ head.attrGroups.flatMap AttrGroup.texts, '\n' ∉ t.toList := fun t ht =>
      hl.1 t (by simp [ClassHead.texts, List.mem_flatMap.mp ht])
    rw [Stmt.render, Stmt.gapCount, Stmt.bodies, Stmt.classes, ← Nat.add_assoc, Stmt.sum_separators,
      newline_natCast]
    refine (gives_marginless (marginless.alike_attrLines _ ha ⟨rfl, hd⟩)).bind
      fun attrs hattrs => ?_
    have hbody := gives_body_gaps d.succ_pos fun s hs =>
      gives_members_gaps stmts hl.2 s hs d.succ_pos
    refine (hbody.within _).bind fun inner hi => .pure ?_
    have hhead := hattrs.append (marginless.like_classHead head hl.1).2
    have hopen := hhead.append (hasGaps_opener .singleLine d)
    -- the trailer leaves an empty line, whatever comes next in the body
    have h := (hasGaps_block hopen hi d).break_above
    simpa only [opener, defaultStyle, Style.classTrailer, String.append_assoc] using h
  | .method head none, hl, d, hd => by
    simp only [Stmt.texts, MethodHead.texts, List.forall_mem_append] at hl
    exact gives_callable_gaps rfl (List.forall_mem_append.mpr hl.1) hl.2 hd (fun _ => rfl) nofun
  | .method head (some stmts), hl, d, hd => by
    rw [Stmt.texts, MethodHead.texts, List.forall_mem_append, List.forall_mem_append] at hl
    obtain ⟨⟨hline, ha⟩, hs⟩ := hl
    rw [Stmt.gapCount, Stmt.bodies, Stmt.classes, Stmt.sum_separators]
    refine gives_callable_gaps rfl hline ha hd nofun fun body hb => ?_
    cases hb
    exact gives_body_gaps d.succ_pos fun s hm => gives_members_gaps stmts hs s hm d.succ_pos
  | .function head stmts, hl, d, hd => by
    rw [Stmt.texts, FunctionHead.texts, List.forall_mem_append, List.forall_mem_append] at hl
    obtain ⟨⟨hline, ha⟩, hs⟩ := hl
    rw [Stmt.gapCount, Stmt.bodies, Stmt.classes, Stmt.sum_separators]
    refine gives_callable_gaps rfl hline ha hd nofun fun body hb => ?_
    cases hb
    exact gives_body_gaps d.succ_pos fun s hm => gives_members_gaps stmts hs s hm d.succ_pos
  | .property decl, hl, d, hd => by
    rw [Stmt.render]
    exact (gives_marginless (marginless.alike_property decl hl ⟨rfl, hd⟩)).mono fun _ h => h.above
  | .constants decl, hl, d, hd => by
    rw [Stmt.render]
    exact (gives_marginless (marginless.alike_constants decl hl ⟨rfl, hd⟩)).mono fun _ h => h.above
  | .traitUse decl, hl, d, hd => by
    rw [Stmt.render]
    exact (gives_marginless (marginless.alike_traitUse decl hl)).mono fun _ h => h.above
  | .expression _ expr, hl, d, hd => by
    rw [Stmt.render]
    refine (gives_marginless (marginless.alike_exprText expr hl ⟨rfl, hd⟩)).bind
      fun text ht => .pure ?_
    exact (ht.append (.of_oneLine (by decide))).above
  | .ret _ none, hl, d, hd => by
    rw [Stmt.render]
    exact .pure (HasGaps.of_oneLine (by decide)).above
  | .ret _ (some e), hl, d, hd => by
    rw [Stmt.render]
    refine (gives_marginless (marginless.alike_expr e hl ⟨rfl, hd⟩)).bind fun text ht => .pure ?_
    have hr := (HasGaps.of_oneLine (s := "return ") (by decide)).append ht
    exact (hr.append (.of_oneLine (by decide))).above
  | .forLoop head stmts, hl, d, hd => by
    simp only [Stmt.texts, ForHead.texts, List.forall_mem_append] at hl
    obtain ⟨⟨⟨hinit, hcond⟩, hloop⟩, hs⟩ := hl
    have hlist : ∀ es : List (Option Expr), (∀ t ∈ es.flatMap Expr.optTexts, '\n' ∉ t.toList) →
        (commaSeparated (exprItems es) d).Gives (HasGaps 0) := fun es hes =>
      gives_marginless (Likeness.alike_commaSeparated (marginless.alike_exprItems es hes) ⟨rfl, hd⟩)
    rw [Stmt.render, Stmt.gapCount, Stmt.bodies, Stmt.classes, Stmt.sum_separators, newline_natCast]
    refine (hlist _ hinit).bind fun init hi => (hlist _ hcond).bind fun cond hc => ?_
    refine (hlist _ hloop).bind fun loop hl => ?_
    have hbody := gives_body_gaps d.succ_pos fun s hm => gives_members_gaps stmts hs s hm d.succ_pos
    refine hbody.bind fun inner hin => .pure ?_
    have h1 := ((HasGaps.of_oneLine (s := "for (") (by decide)).append hi).append
      (.of_oneLine (s := ";") (by decide))
    have h2 := (h1.append hc.spaced).append (.of_oneLine (s := ";") (by decide))
    have h3 := (h2.append hl.spaced).append (.of_oneLine (s := ") \x7b") (by decide))
    exact (hasGaps_block h3 hin d).above
  | .nop _, hl, d, hd => by
    rw [Stmt.render]
    exact .pure (HasGaps.of_oneLine (by decide)).above
  | .foreign _ _ _, _, d, _ => by
    rw [Stmt.render]
    exact .malformed

theorem gives_members_gaps : ∀ stmts : List (Option Stmt),
    (∀ t ∈ Stmt.listTexts stmts, '\n' ∉ t.toList) → ∀ s, some s ∈ stmts → ∀ {d : Nat}, 0 < d →
      (s.render defaultStyle d).Gives (HasGapsAbove s.gapCount)
  | [], _, _, hs, _, _ => nomatch hs
  | none :: rest, hl, s, hs, d, hd => by
    rcases List.mem_cons.mp hs with hs | hs
    · cases hs
    · exact gives_members_gaps rest hl s hs hd
  | some s :: rest, hl, s', hs, d, hd => by
    rw [Stmt.listTexts, List.forall_mem_append] at hl
    rcases List.mem_cons.mp hs with hs | hs
    · cases hs
      exact gives_stmt_gaps s hl.1 hd
    · exact gives_members_gaps rest hl.2 s' hs hd

end

end Statements

/-! ## A class at the left margin -/

/-- Neither the comment nor a line in it is blank. -/
def Comment.solid (c : Comment) : Bool :=
  ((Text.trimChars c.text.toList).splitOn '\n').all fun line => line.any fun a => !Text.isBlank a

theorem Comment.ne_nil_of_solid {c : Comment} (h : c.solid = true) :
    ∀ line ∈ c.lines, line ≠ [] := by
  have hink : ∀ line ∈ (Text.trimChars c.text.toList).splitOn '\n',
      ∃ a ∈ line, Text.isBlank a = false := by
    simpa [Comment.solid] using h
  intro line hline
  rw [Comment.lines] at hline
  cases hs : (Text.trimChars c.text.toList).splitOn '\n' with
  | nil => exact absurd hs (List.splitOn_ne_nil _ _)
  | cons first rest =>
    rw [hs, List.forall_mem_cons] at hink
    rw [hs, Comment.realignTail, List.mem_cons, List.mem_map] at hline
    rcases hline with rfl | ⟨l, hl, rfl⟩
    · obtain ⟨a, ha, _⟩ := hink.1
      exact List.ne_nil_of_mem ha
    · obtain ⟨a, ha, hb⟩ := hink.2 l hl
      have ht := Text.trimChars_ne_nil ha hb
      rw [Comment.realign]
      split
      · exact List.cons_ne_nil _ _
      · exact ht

theorem Comment.inked_textAt {c : Comment} (h : c.solid = true) (d : Nat) : Inked (c.textAt d) := by
  cases ht : (c.textAt d).toList with
  | nil =>
    obtain ⟨first, rest, hs⟩ := List.exists_cons_of_ne_nil c.lines_ne_nil
    obtain ⟨tail, hi⟩ := exists_intercalate_cons (lineBreak d) (String.ofList first)
      (rest.map String.ofList)
    rw [Comment.textAt, hs, List.map_cons, hi, String.toList_append, String.toList_ofList,
      List.append_eq_nil_iff] at ht
    exact absurd ht.1 (c.ne_nil_of_solid h first (hs ▸ List.mem_cons_self))
  | cons a cs => exact ⟨a, cs, ht, c.head_textAt d ht⟩

/-- What stands above a line at the left margin, from the first line on. -/
theorem exists_lead {cs : List Comment} (h : ∀ c ∈ cs, c.solid = true) {s : String}
    (hs : Inked s) :
    ∃ lead, commentLines cs 0 ++ "\n" ++ s = "\n" ++ (lead ++ s) ∧ Inked (lead ++ s) := by
  cases cs with
  | nil => exact ⟨"", by simp, by rwa [String.empty_append]⟩
  | cons c cs =>
    refine ⟨c.textAt 0 ++ commentLines cs 0 ++ "\n", ?_, ?_⟩
    · simp only [commentLines_cons, lineBreak_zero, String.append_assoc]
    · exact (((c.inked_textAt (h c List.mem_cons_self) 0).append _).append _).append s

theorem Modifier.inked_keyword (m : Modifier) : Inked m.keyword := by
  cases m <;> exact ⟨_, _, rfl, rfl⟩

theorem ClassHead.inked_text (head : ClassHead) : Inked head.text := by
  have h : Inked (head.flags.text ++ "class") := by
    rw [Modifiers.text]
    cases head.flags.toList with
    | nil => exact ⟨'c', ['l', 'a', 's', 's'], rfl, rfl⟩
    | cons m ms =>
      rw [List.map_cons, String.join_cons]
      exact ((m.inked_keyword.append " ").append _).append _
  exact ((h.append _).append _).append _

/-- **The blank lines of a class at the left margin**, up to its closing brace. -/
theorem gives_class_margin {head : ClassHead} {stmts : List (Option Stmt)}
    (hl : ∀ t ∈ (Stmt.classDecl head stmts).texts, '\n' ∉ t.toList) :
    ((Stmt.classDecl head stmts).render defaultStyle (0 : Nat)).Gives fun text =>
      ∃ body, text = body ++ "\x7d\n" ∧ Inked (body ++ "\x7d") ∧
        HasGaps (Stmt.separators stmts + Stmt.listGapCount stmts) (body ++ "\x7d") := by
  rw [Stmt.texts, List.forall_mem_append] at hl
  have ha : ∀ t ∈ head.attrGroups.flatMap AttrGroup.texts, '\n' ∉ t.toList := fun t ht =>
    hl.1 t (by simp [ClassHead.texts, List.mem_flatMap.mp ht])
  have hhead : HasGaps 0 head.text := (marginless.like_classHead head hl.1).2
  have hbody := gives_body_gaps Nat.one_pos fun s hs =>
    gives_members_gaps stmts hl.2 s hs Nat.one_pos
  rw [Stmt.render, newline_natCast]
  refine (gives_attrLines_margin _ ha hhead head.inked_text).bind fun attrs hattrs => ?_
  refine (hbody.within _).bind fun inner hi => .pure ?_
  refine ⟨attrs ++ head.text ++ lineBreak 0 ++ "\x7b" ++ inner ++ lineBreak 0, ?_, ?_, ?_⟩
  · simp only [defaultStyle, Style.classTrailer, String.append_assoc]
    rfl
  · simp only [String.append_assoc] at hattrs ⊢
    rw [← String.append_assoc]
    exact hattrs.2.append _
  · have h := hasGaps_block (hattrs.1.append (hasGaps_opener .singleLine 0)) hi 0
    simpa only [opener, String.append_assoc] using h

/-! ## Files -/

theorem gaps_prologue (rest : List Char) :
    gaps true (prologue.toList ++ rest) = 2 + gaps true rest := by
  simp [prologue, gaps]
  omega

theorem Inked.gaps_eq {s : String} (h : Inked s) : gaps true s.toList = gaps false s.toList := by
  obtain ⟨c, cs, hs, hc⟩ := h
  have hn : c ≠ '\n' := by
    rintro rfl
    cases hc
  rw [hs, gaps_cons_of_ne hn, gaps_cons_of_ne hn]

theorem Inked.dropMargin {s : String} (h : Inked s) :
    String.ofList (("\n" ++ s).toList.dropWhile isMargin) = s := by
  obtain ⟨c, cs, hs, hc⟩ := h
  have hb : ("\n" ++ s).toList = '\n' :: s.toList := by
    rw [String.toList_append]
    rfl
  rw [hb, List.dropWhile_cons_of_pos rfl, hs, List.dropWhile_cons_of_neg (by simp [hc]), ← hs,
    String.ofList_toList]

theorem append_brace_break (s : String) : s ++ "\x7d\n" = s ++ "\x7d" ++ "\n" := by
  rw [String.append_assoc]
  rfl

/-- A class in a list of its own, with its comments in front of it. -/
theorem gives_body_class (head : ClassHead) (stmts : List (Option Stmt)) :
    (defaultStyle.body (members defaultStyle [some (.classDecl head stmts)]) 0).Gives fun body =>
      ∃ text, ((Stmt.classDecl head stmts).render defaultStyle (0 : Nat)).result = .ok text ∧
        body = commentLines head.comments 0 ++ "\n" ++ text := by
  intro body h
  have hs : Stmt.setApart [some (.classDecl head stmts)] = false := rfl
  rw [defaultStyle, Style.body, ← defaultStyle, separated_members, hs] at h
  change (compactBody (members defaultStyle [some (.classDecl head stmts)]) (0 : Nat)).result =
    _ at h
  rw [members, member, compactBody, newline_natCast, readComments_some_bind,
    result_bind_ok (result_leadingComments _ _)] at h
  obtain ⟨text, ht, h⟩ := result_bind_eq_ok.mp h
  cases h
  exact ⟨text, ht, by rw [String.append_empty]; rfl⟩

/-- **The blank lines of a printed class**, from its first line up to its closing brace. -/
theorem gives_prettyPrint_class {head : ClassHead} {stmts : List (Option Stmt)}
    (hl : ∀ t ∈ (Stmt.classDecl head stmts).texts, '\n' ∉ t.toList)
    (hc : ∀ a ∈ head.comments, a.solid = true) :
    (prettyPrint defaultStyle [some (.classDecl head stmts)]).Gives fun text =>
      ∃ body, text = body ++ "\x7d\n" ∧ Inked (body ++ "\x7d") ∧
        HasGaps (Stmt.separators stmts + Stmt.listGapCount stmts) (body ++ "\x7d") := by
  refine (gives_body_class head stmts).bind fun printed hp => .pure ?_
  obtain ⟨text, ht, rfl⟩ := hp
  obtain ⟨body, rfl, hinked, hgaps⟩ := gives_class_margin hl text ht
  obtain ⟨lead, hlead, hfirst⟩ := exists_lead hc hinked
  have hprinted : commentLines head.comments 0 ++ "\n" ++ (body ++ "\x7d\n") =
      "\n" ++ (lead ++ (body ++ "\x7d") ++ "\n") := by
    rw [append_brace_break, ← String.append_assoc, hlead, String.append_assoc]
  have hall := (hasGaps_commentLines head.comments (d := 0)
    (.inr fun a ha => a.ne_nil_of_solid (hc a ha))).append (hinked.hasGaps_break_iff.mpr hgaps)
  rw [← String.append_assoc, hlead, hfirst.hasGaps_break_iff, Nat.zero_add] at hall
  refine ⟨lead ++ body, ?_, ?_, ?_⟩
  · rw [hprinted, (hfirst.append "\n").dropMargin, append_brace_break]
    simp only [String.append_assoc]
  · rwa [String.append_assoc]
  · rwa [String.append_assoc]

/-- **The blank lines of a printed file.** A well-formed class whose names and string values do not
break a line, and whose own comments have no blank lines, is printed to a file with these empty
lines: the two of the prologue, those between the members of the bodies that are set apart, and one
after every nested class. The file ends with a brace and one line break. -/
theorem printFile_emptyLines {c : ClassDecl} (hw : c.toStmt.wellFormed = true)
    (hl : ∀ t ∈ c.toStmt.texts, '\n' ∉ t.toList) (hc : ∀ a ∈ c.head.comments, a.solid = true) :
    ∃ text, (printFile defaultStyle (some c.toStmt)).result = .ok text ∧
      emptyLines text =
        2 + (c.toStmt.bodies.map Stmt.separators).sum + Stmt.listClasses c.members ∧
      ∃ body, text = body ++ "\x7d\n" := by
  obtain ⟨head, stmts⟩ := c
  rw [ClassDecl.toStmt] at hw hl ⊢
  have hall : Stmt.allWellFormed [some (.classDecl head stmts)] = true := by
    rw [Stmt.allWellFormed, Stmt.present, hw]
    rfl
  rw [← succeeds_prettyPrint defaultStyle, succeeds_iff] at hall
  obtain ⟨text, ht⟩ := hall
  obtain ⟨body, rfl, hinked, hgaps⟩ := gives_prettyPrint_class hl hc text ht
  refine ⟨prologue ++ (body ++ "\x7d\n"), result_bind_ok ht _, ?_, prologue ++ body, ?_⟩
  · have hgaps' : gaps false (body ++ "\x7d" ++ "\n").toList =
        Stmt.separators stmts + Stmt.listGapCount stmts := by
      rw [String.toList_append, hgaps]
      rfl
    rw [emptyLines_eq_gaps, String.toList_append, gaps_prologue, append_brace_break,
      (hinked.append "\n").gaps_eq, hgaps', ← Stmt.sum_separators, Stmt.bodies, Nat.add_assoc]
  · rw [String.append_assoc]

/-- A commented class with a property, nothing, and a method with a class of two constants in its
body: a blank line below the property, one between the constants and one below the inner class. -/
theorem printFile_emptyLines_nested_class :
    ∃ text, (printFile defaultStyle (some (ClassDecl.toStmt
        ⟨{ comments := [.doc "a\n* b"], name := "C" },
          [some (.property { items := [{ name := "p" }] }), some (.nop []),
            some (.method { name := "f" } (some [some (.classDecl { name := "D" }
              [some (.constants { items := [{ name := "X", value := some (.integer [] 1) }] }),
                some (.constants { items := [{ name := "Y", value := some (.integer [] 2) }] })
              ])]))]⟩))).result = .ok text ∧
      emptyLines text = 5 ∧ ∃ body, text = body ++ "\x7d\n" :=
  printFile_emptyLines rfl (by decide) (by decide)

end PhpDecl
