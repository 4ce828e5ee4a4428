import PhpDecl.Proofs.Members
import PhpDecl.Proofs.Verdict

/-!
# Statements with neither code nor comments

An idle statement has nothing to show. In a body whose members are set apart it leaves no trace; in
a compact body it leaves an empty line with its indentation. So printing a tree without its idle
statements drops white space from the text, as much of it as can be told from the tree.

* `Stmt.isIdle`, `Stmt.pruned`, `Stmt.listPruned`: idle statements, and a tree without them;
* `Style.separates`, `Style.result_body_eq`: which bodies a style sets apart;
* `Stmt.idleWidth`, `Stmt.listIdleWidth`: the characters that idle statements leave;
* `Padded`, `Led`: texts that differ by white space, and those that start alike;
* `alike_compactBody_pruned`, `alike_memberBlocks_pruned`, **`alike_body_pruned`**: bodies without
  their idle statements;
* **`ledStmt`**: statements without the idle statements in their bodies.
-/

namespace PhpDecl

open Traced

/-! ## Trees without idle statements -/

/-- The statement has neither code nor comments. -/
def Stmt.isIdle (s : Stmt) : Bool := s.isNop && s.comments.isEmpty

mutual

/-- The statement without the idle statements in its bodies. -/
def Stmt.pruned : Stmt → Stmt
  | .classDecl head members => .classDecl head (Stmt.listPruned members)
  | .method head none => .method head none
  | .method head (some body) => .method head (some (Stmt.listPruned body))
  | .function head body => .function head (Stmt.listPruned body)
  | .forLoop head body => .forLoop head (Stmt.listPruned body)
  | .property decl => .property decl
  | .constants decl => .constants decl
  | .traitUse decl => .traitUse decl
  | .expression cs e => .expression cs e
  | .ret cs e => .ret cs e
  | .nop cs => .nop cs
  | .foreign cs kind typeName => .foreign cs kind typeName

/-- A list of statements without its idle statements, nor those in the bodies of the others. -/
def Stmt.listPruned : List (Option Stmt) → List (Option Stmt)
  | [] => []
  | none :: rest => none :: Stmt.listPruned rest
  | some s :: rest =>
    if s.isIdle then Stmt.listPruned rest else some s.pruned :: Stmt.listPruned rest

end

namespace Stmt

/-- A statement keeps its comments and its role in a body. -/
theorem role_pruned : ∀ s : Stmt,
    s.pruned.comments = s.comments ∧ s.pruned.kind = s.kind ∧ s.pruned.isNop = s.isNop
  | .classDecl _ _ | .method _ none | .method _ (some _) | .function _ _ | .forLoop _ _
  | .property _ | .constants _ | .traitUse _ | .expression _ _ | .ret _ _ | .nop _
  | .foreign _ _ _ => ⟨rfl, rfl, rfl⟩

theorem eq_nop_of_isIdle : ∀ {s : Stmt}, s.isIdle = true → s = .nop []
  | .nop cs, h => by
    have hcs : cs = [] := by simpa [isIdle, isNop, comments] using h
    rw [hcs]

/-- A statement without code that is not idle has comments. -/
theorem isNop_and_commented {s : Stmt} (h : s.isIdle = false) :
    (s.isNop && !s.comments.isEmpty) = s.isNop := by
  unfold isIdle at h
  cases hn : s.isNop with
  | false => rfl
  | true =>
    rw [hn, Bool.true_and] at h
    rw [h]
    rfl

/-- Idle statements do not matter to whether the members of a body are set apart. -/
theorem setApart_listPruned (stmts : List (Option Stmt)) :
    setApart (listPruned stmts) = setApart stmts := by
  induction stmts with
  | nil => rfl
  | cons s stmts ih =>
    unfold setApart at ih ⊢
    cases s with
    | none => rw [listPruned, List.any_cons, ih, List.any_cons]
    | some s =>
      rw [listPruned, List.any_cons]
      split_ifs with hidle
      · rw [ih, eq_nop_of_isIdle hidle]
        rfl
      · rw [List.any_cons, ih, Option.any_some, Option.any_some, (role_pruned s).2.1]

end Stmt

/-! ## Bodies that are set apart -/

namespace Style

/-- The style sets the members of a body apart if one of them declares something. -/
def separates : Style → Bool
  | .standard => false
  | .extended _ => true
  | .recorded inner => inner.separates

/-- **A body is written with blank lines if the style sets it apart, and compactly if not.** -/
theorem result_body_eq (style : Style) (members : List (Option Member)) (depth : Int) :
    (style.body members depth).result =
      if style.separates && separated members then (splitBody members depth).result
      else (compactBody members depth).result := by
  induction style with
  | standard => rfl
  | extended next ih =>
    rw [body, separates, Bool.true_and]
    cases hs : separated members with
    | true =>
      rw [if_pos rfl, if_pos rfl, result_note_bind]
    | false =>
      rw [hs, Bool.and_false] at ih
      rw [if_neg (by simp), if_neg (by simp), ih, if_neg (by simp)]
  | recorded inner ih =>
    rw [body, result_note_bind, ih]
    rfl

end Style

/-! ## What idle statements leave -/

mutual

/-- The characters that idle statements leave in a statement. -/
def Stmt.idleWidth (style : Style) : Stmt → Nat → Nat
  | .classDecl _ members, d =>
    Stmt.listIdleWidth style (style.separates && Stmt.setApart members) members (d + 1)
  | .method _ none, _ => 0
  | .method _ (some body), d =>
    Stmt.listIdleWidth style (style.separates && Stmt.setApart body) body (d + 1)
  | .function _ body, d =>
    Stmt.listIdleWidth style (style.separates && Stmt.setApart body) body (d + 1)
  | .forLoop _ body, d =>
    Stmt.listIdleWidth style (style.separates && Stmt.setApart body) body (d + 1)
  | .property _, _ => 0
  | .constants _, _ => 0
  | .traitUse _, _ => 0
  | .expression _ _, _ => 0
  | .ret _ _, _ => 0
  | .nop _, _ => 0
  | .foreign _ _ _, _ => 0

/-- The characters that idle statements leave in a list: a line break and its indentation for each
of those in the list itself, unless it is set `apart`. -/
def Stmt.listIdleWidth (style : Style) (apart : Bool) : List (Option Stmt) → Nat → Nat
  | [], _ => 0
  | none :: rest, d => Stmt.listIdleWidth style apart rest d
  | some s :: rest, d =>
    (if s.isIdle then if apart then 0 else 1 + d * indentWidth else s.idleWidth style d) +
      Stmt.listIdleWidth style apart rest d

end

/-! ## Texts that differ by white space -/

/-- The first text is the second one with `n` more spaces and line breaks. -/
structure Padded (n : Nat) (a b : String) : Prop where
  sublist : b.toList.Sublist a.toList
  solid : a.toList.filter isSolid = b.toList.filter isSolid
  length : a.toList.length = b.toList.length + n

namespace Padded

variable {m n : Nat} {a b a' b' : String}

theorem refl (a : String) : Padded 0 a a := ⟨List.Sublist.refl _, rfl, rfl⟩

theorem append (h : Padded m a b) (h' : Padded n a' b') : Padded (m + n) (a ++ a') (b ++ b') := by
  refine ⟨?_, ?_, ?_⟩
  · rw [String.toList_append, String.toList_append]
    exact h.sublist.append h'.sublist
  · rw [String.toList_append, String.toList_append, List.filter_append, List.filter_append, h.solid,
      h'.solid]
  · have hlen := h.length
    have hlen' := h'.length
    simp only [String.toList_append, List.length_append]
    omega

theorem prepend (x : String) (h : Padded n a b) : Padded n (x ++ a) (x ++ b) := by
  have hx := (refl x).append h
  rwa [Nat.zero_add] at hx

theorem append_right (h : Padded n a b) (x : String) : Padded n (a ++ x) (b ++ x) :=
  h.append (refl x)

/-- A line that only the first text has. -/
theorem lineBreak_left (d : Nat) (h : Padded n a b) :
    Padded (1 + d * indentWidth + n) (lineBreak d ++ a) b := by
  have hline : (lineBreak d).toList = '\n' :: List.replicate (d * indentWidth) ' ' := by
    simp [lineBreak, indentation]
  refine ⟨?_, ?_, ?_⟩
  · rw [String.toList_append]
    exact h.sublist.trans (List.sublist_append_right _ _)
  · have hblank : (lineBreak d).toList.filter isSolid = [] := by
      rw [hline, List.filter_cons_of_neg (by decide), List.filter_replicate, if_neg (by decide)]
    rw [String.toList_append, List.filter_append, hblank, List.nil_append, h.solid]
  · have hlen := h.length
    simp only [String.toList_append, List.length_append, hline, List.length_cons,
      List.length_replicate]
    omega

/-- Texts without a difference in length are the same. -/
theorem eq_iff (h : Padded n a b) : b = a ↔ n = 0 := by
  have hlen := h.length
  constructor
  · rintro rfl
    omega
  · rintro rfl
    exact String.toList_inj.mp (h.sublist.eq_of_length hlen.symm)

end Padded

/-- The text shows something. -/
def Shows (s : String) : Prop := ∃ c ∈ s.toList, isMargin c = false

theorem Shows.append_left {s : String} (h : Shows s) (t : String) : Shows (t ++ s) := by
  obtain ⟨c, hc, hm⟩ := h
  exact ⟨c, by rw [String.toList_append]; exact List.mem_append_right _ hc, hm⟩

theorem Shows.append_right {s : String} (h : Shows s) (t : String) : Shows (s ++ t) := by
  obtain ⟨c, hc, hm⟩ := h
  exact ⟨c, by rw [String.toList_append]; exact List.mem_append_left _ hc, hm⟩

/-- Texts that start alike with something that shows; after it the first one has `n` more spaces
and line breaks. -/
def Led (n : Nat) (a b : String) : Prop :=
  ∃ p r r', a = p ++ r ∧ b = p ++ r' ∧ Shows p ∧ Padded n r r'

namespace Led

variable {m n : Nat} {a b a' b' : String}

theorem of_shows (h : Shows a) : Led 0 a a :=
  ⟨a, "", "", String.append_empty.symm, String.append_empty.symm, h, .refl ""⟩

theorem padded (h : Led n a b) : Padded n a b := by
  obtain ⟨p, r, r', rfl, rfl, _, hr⟩ := h
  exact hr.prepend p

theorem prepend (x : String) (h : Led n a b) : Led n (x ++ a) (x ++ b) := by
  obtain ⟨p, r, r', rfl, rfl, hp, hr⟩ := h
  exact ⟨x ++ p, r, r', String.append_assoc.symm, String.append_assoc.symm, hp.append_left x, hr⟩

theorem append (h : Led m a b) (h' : Padded n a' b') : Led (m + n) (a ++ a') (b ++ b') := by
  obtain ⟨p, r, r', rfl, rfl, hp, hr⟩ := h
  exact ⟨p, r ++ a', r' ++ b', String.append_assoc, String.append_assoc, hp, hr.append h'⟩

end Led

/-! ## Bodies -/

/-- A step that is like itself has the same value twice, with the property of its values. -/
theorem Traced.Alike.same {α : Type} {R : α → α → Prop} {P : α → Prop} {x : Traced α}
    (h : Alike R x x) (hx : x.Gives P) : Alike (fun a b => a = b ∧ P a) x x := by
  unfold Alike at h ⊢
  cases hr : x.result with
  | ok a => exact .ok ⟨rfl, hx a hr⟩
  | error e =>
    rw [hr] at h
    cases h
    exact .malformed _

section Bodies

variable {style : Style} {stmts : List (Option Stmt)} {d : Nat}

/-- The statement without its idle statements, unless it has no code at all. -/
def LedStmt (style : Style) (d : Nat) (s : Stmt) : Prop :=
  s.isNop = false →
    Alike (Led (s.idleWidth style d)) (s.render style d) (s.pruned.render style d)

theorem idleWidth_of_isNop : ∀ {s : Stmt}, s.isNop = true → s.idleWidth style d = 0
  | .nop _, _ => by rw [Stmt.idleWidth]

theorem result_compactBody_cons (s : Stmt) (rest : List (Option Stmt)) :
    (compactBody (members style (some s :: rest)) d).result =
      (if s.isNop && !s.comments.isEmpty then do
        let more ← compactBody (members style rest) d
        return commentLines s.comments d ++ more
      else do
        let text ← s.render style d
        let more ← compactBody (members style rest) d
        return commentLines s.comments d ++ lineBreak d ++ text ++ more).result := by
  rw [members, member, compactBody, readComments_some_bind, newline_natCast,
    result_bind_ok (result_leadingComments s.comments d)]
  rfl

/-- An idle statement in a compact body is a line break. -/
theorem result_compactBody_idle (rest : List (Option Stmt)) :
    (compactBody (members style (some (.nop []) :: rest)) d).result =
      (compactBody (members style rest) d >>= fun more => pure (lineBreak d ++ more)).result := by
  have hline : commentLines (Stmt.nop []).comments d ++ lineBreak d ++ "" = lineBreak d := by
    simp [Stmt.comments]
  rw [result_compactBody_cons, if_neg (by decide), Stmt.render]
  refine (result_bind_ok (result_ok "") _).trans ?_
  simp only [hline]

/-- **A compact body without its idle statements.** -/
theorem alike_compactBody_pruned (h : ∀ s, some s ∈ stmts → LedStmt style d s) :
    Alike (Padded (Stmt.listIdleWidth style false stmts d))
      (compactBody (members style stmts) d)
      (compactBody (members style (Stmt.listPruned stmts)) d) := by
  induction stmts with
  | nil => exact .pure (.refl "")
  | cons s stmts ih =>
    have hrest := ih fun s hs => h s (List.mem_cons_of_mem _ hs)
    cases s with
    | none => exact .malformed _
    | some s =>
      rw [Stmt.listPruned, Stmt.listIdleWidth]
      by_cases hidle : s.isIdle = true
      · rw [if_pos hidle, if_pos hidle, if_neg (by decide)]
        obtain rfl := Stmt.eq_nop_of_isIdle hidle
        refine Alike.congr ?_ (result_compactBody_idle stmts) rfl
        exact hrest.bind_pure_left fun a b hab => hab.lineBreak_left d
      · rw [if_neg hidle, if_neg hidle]
        refine Alike.congr ?_ (result_compactBody_cons s stmts) (result_compactBody_cons _ _)
        obtain ⟨hcomments, _, hnop⟩ := s.role_pruned
        rw [hcomments, hnop, Stmt.isNop_and_commented (Bool.eq_false_iff.mpr hidle)]
        by_cases hn : s.isNop = true
        · rw [if_pos hn, if_pos hn, idleWidth_of_isNop hn, Nat.zero_add]
          exact hrest.bind fun a b hab => .pure (hab.prepend _)
        · rw [if_neg hn, if_neg hn]
          rw [Bool.not_eq_true] at hn
          refine (h s List.mem_cons_self hn).bind fun a b hab => ?_
          refine hrest.bind fun r r' hr => .pure ?_
          exact (hab.padded.prepend _).append hr

theorem result_memberBlocks_cons (s : Stmt) (rest : List (Option Stmt)) :
    (memberBlocks (members style (some s :: rest)) d).result =
      (if s.isNop then do
        let more ← memberBlocks (members style rest) d
        return if (commentLines s.comments d).isEmpty then more
          else commentLines s.comments d :: more
      else do
        let text ← s.render style d
        let more ← memberBlocks (members style rest) d
        return (commentLines s.comments d ++ lineBreak d ++ text) :: more).result := by
  rw [members, member, memberBlocks, readComments_some_bind, newline_natCast,
    result_bind_ok (result_leadingComments s.comments d)]
  rfl

/-- Blocks that differ by `n` spaces and line breaks in all. -/
inductive BlocksPadded : Nat → List String → List String → Prop
  | nil : BlocksPadded 0 [] []
  | cons {m n : Nat} {a b : String} {as bs : List String} (block : Padded m a b)
    (rest : BlocksPadded n as bs) : BlocksPadded (m + n) (a :: as) (b :: bs)

theorem BlocksPadded.intercalate {n : Nat} {as bs : List String} (h : BlocksPadded n as bs) :
    Padded n ("\n".intercalate as) ("\n".intercalate bs) := by
  induction h with
  | nil => exact .refl _
  | cons block rest ih =>
    cases rest with
    | nil =>
      rw [String.intercalate_singleton, String.intercalate_singleton]
      exact block
    | cons block' rest =>
      rw [String.intercalate_cons_cons, String.intercalate_cons_cons]
      exact (block.append_right "\n").append ih

/-- The blocks of a body without its idle statements. -/
theorem alike_memberBlocks_pruned (h : ∀ s, some s ∈ stmts → LedStmt style d s) :
    Alike (BlocksPadded (Stmt.listIdleWidth style true stmts d))
      (memberBlocks (members style stmts) d)
      (memberBlocks (members style (Stmt.listPruned stmts)) d) := by
  induction stmts with
  | nil => exact .pure .nil
  | cons s stmts ih =>
    have hrest := ih fun s hs => h s (List.mem_cons_of_mem _ hs)
    cases s with
    | none => exact .malformed _
    | some s =>
      rw [Stmt.listPruned, Stmt.listIdleWidth]
      by_cases hidle : s.isIdle = true
      · rw [if_pos hidle, if_pos hidle, if_pos rfl, Nat.zero_add]
        obtain rfl := Stmt.eq_nop_of_isIdle hidle
        refine Alike.congr ?_ (result_memberBlocks_cons _ stmts) rfl
        exact hrest.bind_pure_left fun a b hab => hab
      · rw [if_neg hidle, if_neg hidle]
        refine Alike.congr ?_ (result_memberBlocks_cons s stmts) (result_memberBlocks_cons _ _)
        obtain ⟨hcomments, _, hnop⟩ := s.role_pruned
        rw [hcomments, hnop]
        by_cases hn : s.isNop = true
        · rw [if_pos hn, if_pos hn, idleWidth_of_isNop hn]
          refine hrest.bind fun as bs hab => .pure ?_
          split_ifs
          · rw [Nat.zero_add]
            exact hab
          · exact .cons (.refl _) hab
        · rw [if_neg hn, if_neg hn]
          rw [Bool.not_eq_true] at hn
          refine (h s List.mem_cons_self hn).bind fun a b hab => ?_
          refine hrest.bind fun as bs hr => .pure ?_
          exact .cons (hab.padded.prepend _) hr

/-- A body and the body without its idle statements are written the same way, so they are related if
they are in both ways. -/
theorem alike_body_listPruned {T : Bool → String → String → Prop} {depth : Int}
    (hsplit : Alike (T true) (splitBody (members style stmts) depth)
      (splitBody (members style (Stmt.listPruned stmts)) depth))
    (hcompact : Alike (T false) (compactBody (members style stmts) depth)
      (compactBody (members style (Stmt.listPruned stmts)) depth)) :
    Alike (T (style.separates && Stmt.setApart stmts)) (style.body (members style stmts) depth)
      (style.body (members style (Stmt.listPruned stmts)) depth) := by
  have hbody := style.result_body_eq (members style stmts) depth
  have hpruned := style.result_body_eq (members style (Stmt.listPruned stmts)) depth
  rw [separated_members] at hbody hpruned
  rw [Stmt.setApart_listPruned] at hpruned
  refine Alike.congr ?_ (hbody.trans (apply_ite result _ _ _).symm)
    (hpruned.trans (apply_ite result _ _ _).symm)
  cases style.separates && Stmt.setApart stmts with
  | true =>
    rw [if_pos rfl, if_pos rfl]
    exact hsplit
  | false =>
    rw [if_neg (by decide), if_neg (by decide)]
    exact hcompact

/-- **A body without its idle statements**, in any style. -/
theorem alike_body_pruned (h : ∀ s, some s ∈ stmts → LedStmt style d s) :
    Alike (Padded (Stmt.listIdleWidth style (style.separates && Stmt.setApart stmts) stmts d))
      (style.body (members style stmts) d)
      (style.body (members style (Stmt.listPruned stmts)) d) := by
  apply alike_body_listPruned (T := fun apart => Padded (Stmt.listIdleWidth style apart stmts d))
  · exact (alike_memberBlocks_pruned h).bind fun as bs hab => .pure hab.intercalate
  · exact alike_compactBody_pruned h

end Bodies

/-! ## Statements -/

section Statements

/-- What ends with a semicolon shows something. -/
theorem shows_semicolon (s : String) : Shows (s ++ ";") := ⟨';', by simp, by decide⟩

theorem gives_property_shows (p : Property) (depth : Int) :
    (propertyText p depth).Gives Shows := by
  rw [propertyText]
  by_cases hitems : p.items.isEmpty = true
  · rw [if_pos hitems]
    exact .malformed
  · rw [if_neg hitems]
    exact Gives.any.bind fun _ _ => Gives.any.bind fun _ _ => Gives.any.bind fun _ _ =>
      .pure (shows_semicolon _)

theorem gives_constants_shows (c : Constants) (depth : Int) :
    (constantsText c depth).Gives Shows := by
  rw [constantsText]
  split_ifs
  · exact .malformed
  · exact Gives.any.bind fun _ _ => Gives.any.bind fun _ _ => .pure (shows_semicolon _)

theorem gives_traitUse_shows (t : TraitUse) : (traitUseText t).Gives Shows := by
  rw [traitUseText]
  split_ifs
  · exact .malformed
  · exact .pure (shows_semicolon _)

variable (style : Style) (d : Nat)

theorem alike_stmt_self (s : Stmt) :
    Alike essenceLikeness.Texts (s.render style d) (s.render style d) :=
  (essenceStyles style style).alike_stmt s (fun _ _ => trivial) (d := d) (e := d) trivial

/-- A statement without a body. -/
theorem ledStmt_of_shows {s : Stmt} (hw : s.idleWidth style d = 0) (hp : s.pruned = s)
    (h : (s.render style d).Gives Shows) : LedStmt style d s := by
  intro _
  rw [hw, hp]
  exact ((alike_stmt_self style d s).same h).mono fun a b hab => hab.1 ▸ .of_shows hab.2

/-- The opening brace, a body and the closing brace after something. -/
theorem led_block {n : Nat} {inner inner' : String} (h : Padded n inner inner')
    (before after : String) :
    Led n (before ++ "\x7b" ++ inner ++ after) (before ++ "\x7b" ++ inner' ++ after) := by
  have hopen : Shows (before ++ "\x7b") := ⟨'\x7b', by simp, by decide⟩
  have hled := (Led.of_shows hopen).append (h.append_right after)
  rw [Nat.zero_add] at hled
  simpa only [String.append_assoc] using hled

theorem exists_opener (layout : Layout) (nl : String) :
    ∃ before, opener layout nl = before ++ "\x7b" := by
  cases layout with
  | multiLine => exact ⟨" ", rfl⟩
  | singleLine => exact ⟨nl, rfl⟩

/-- The rest of a method or a function after its attributes and its lead. -/
theorem alike_callable_pruned {n : Nat} (lead : String) (params : List Param)
    (returns : Option TypeExpr) {ms ns : List (Option Member)} (wrap : TreeError → TreeError)
    (h : Alike (Padded n) (style.body ms (d + 1)) (style.body ns (d + 1))) :
    Alike (Led n)
      (do
        let (sig, layout) ← (signature style lead params returns d).within wrap
        let inner ← (style.body ms (d + 1)).within wrap
        let nl ← newline d
        return sig ++ opener layout nl ++ inner ++ nl ++ "\x7d")
      (do
        let (sig, layout) ← (signature style lead params returns d).within wrap
        let inner ← (style.body ns (d + 1)).within wrap
        let nl ← newline d
        return sig ++ opener layout nl ++ inner ++ nl ++ "\x7d") := by
  have hsig : Alike (essenceStyles style style).SigAlike (signature style lead params returns d)
      (signature style lead params returns d) :=
    (essenceStyles style style).alike_signature rfl (fun _ _ => trivial) (fun _ _ => trivial)
      trivial
  refine ((hsig.same Gives.any).within wrap).bind fun p q hpq => ?_
  obtain ⟨rfl, -⟩ := hpq
  refine (h.within wrap).bind fun inner inner' hinner => ?_
  rw [newline_natCast]
  refine .pure ?_
  obtain ⟨before, hopen⟩ := exists_opener p.2 (lineBreak d)
  have hblock := (led_block hinner before (lineBreak d ++ "\x7d")).prepend p.1
  simpa only [hopen, String.append_assoc] using hblock

theorem alike_attrLines_self (gs : List AttrGroup) :
    Alike (fun a b => a = b ∧ True) (attrLines gs d) (attrLines gs d) :=
  (essenceLikeness.alike_attrLines gs (fun _ _ => trivial) (d := d) (e := d) trivial).same Gives.any

theorem alike_exprItems_self (es : List (Option Expr)) :
    Alike (fun a b => a = b ∧ True) (commaSeparated (exprItems es) d)
      (commaSeparated (exprItems es) d) :=
  (Likeness.alike_commaSeparated (d := d) (e := d)
    (essenceLikeness.alike_exprItems es fun _ _ => trivial) trivial).same Gives.any

end Statements

mutual

/-- **A statement without the idle statements in its bodies.** -/
theorem ledStmt (style : Style) : ∀ (s : Stmt) (d : Nat), LedStmt style d s
  | .classDecl head stmts, d => by
    intro _
    have hbody := alike_body_pruned (ledStmts style stmts (d + 1))
    rw [Stmt.idleWidth, Stmt.pruned, Stmt.render, Stmt.render]
    refine (alike_attrLines_self d head.attrGroups).bind fun attrs attrs' hattrs => ?_
    obtain ⟨rfl, -⟩ := hattrs
    refine (hbody.within _).bind fun inner inner' hinner => ?_
    rw [newline_natCast]
    refine .pure ?_
    have hblock := led_block hinner (attrs ++ head.text ++ lineBreak d)
      (lineBreak d ++ "\x7d" ++ style.classTrailer)
    simpa only [String.append_assoc] using hblock
  | .method head none, d => by
    refine ledStmt_of_shows style d (by rw [Stmt.idleWidth]) (by rw [Stmt.pruned]) ?_
    rw [Stmt.render]
    split_ifs
    · exact .malformed
    · exact Gives.any.bind fun _ _ => Gives.any.bind fun _ _ => .pure (shows_semicolon _)
  | .method head (some stmts), d => by
    intro _
    have hbody := alike_body_pruned (ledStmts style stmts (d + 1))
    rw [Stmt.idleWidth, Stmt.pruned, Stmt.render, Stmt.render]
    split_ifs
    · exact .malformed _
    · refine (alike_attrLines_self d head.attrGroups).bind fun attrs attrs' hattrs => ?_
      obtain ⟨rfl, -⟩ := hattrs
      exact alike_callable_pruned style d _ _ _ _ hbody
  | .function head stmts, d => by
    intro _
    have hbody := alike_body_pruned (ledStmts style stmts (d + 1))
    rw [Stmt.idleWidth, Stmt.pruned, Stmt.render, Stmt.render]
    split_ifs
    · exact .malformed _
    · refine (alike_attrLines_self d head.attrGroups).bind fun attrs attrs' hattrs => ?_
      obtain ⟨rfl, -⟩ := hattrs
      exact alike_callable_pruned style d _ _ _ _ hbody
  | .property decl, d => by
    refine ledStmt_of_shows style d (by rw [Stmt.idleWidth]) (by rw [Stmt.pruned]) ?_
    rw [Stmt.render]
    exact gives_property_shows decl d
  | .constants decl, d => by
    refine ledStmt_of_shows style d (by rw [Stmt.idleWidth]) (by rw [Stmt.pruned]) ?_
    rw [Stmt.render]
    exact gives_constants_shows decl d
  | .traitUse decl, d => by
    refine ledStmt_of_shows style d (by rw [Stmt.idleWidth]) (by rw [Stmt.pruned]) ?_
    rw [Stmt.render]
    exact gives_traitUse_shows decl
  | .expression _ e, d => by
    refine ledStmt_of_shows style d (by rw [Stmt.idleWidth]) (by rw [Stmt.pruned]) ?_
    rw [Stmt.render]
    exact Gives.any.bind fun _ _ => .pure (shows_semicolon _)
  | .ret _ none, d => by
    refine ledStmt_of_shows style d (by rw [Stmt.idleWidth]) (by rw [Stmt.pruned]) ?_
    rw [Stmt.render]
    exact .pure (shows_semicolon "return")
  | .ret _ (some e), d => by
    refine ledStmt_of_shows style d (by rw [Stmt.idleWidth]) (by rw [Stmt.pruned]) ?_
    rw [Stmt.render]
    exact Gives.any.bind fun _ _ => .pure (shows_semicolon _)
  | .forLoop head stmts, d => by
    intro _
    have hbody := alike_body_pruned (ledStmts style stmts (d + 1))
    rw [Stmt.idleWidth, Stmt.pruned, Stmt.render, Stmt.render]
    refine (alike_exprItems_self d head.init).bind fun init init' hinit => ?_
    obtain ⟨rfl, -⟩ := hinit
    refine (alike_exprItems_self d head.cond).bind fun cond cond' hcond => ?_
    obtain ⟨rfl, -⟩ := hcond
    refine (alike_exprItems_self d head.loop).bind fun loop loop' hloop => ?_
    obtain ⟨rfl, -⟩ := hloop
    refine hbody.bind fun inner inner' hinner => ?_
    rw [newline_natCast]
    refine .pure ?_
    have hblock := led_block hinner
      ("for (" ++ init ++ ";" ++ spaced cond ++ ";" ++ spaced loop ++ ") ") (lineBreak d ++ "\x7d")
    have hbrace : ") \x7b" = ") " ++ "\x7b" := rfl
    simpa only [hbrace, String.append_assoc] using hblock
  | .nop _, _ => nofun
  | .foreign _ _ _, d => by
    refine ledStmt_of_shows style d (by rw [Stmt.idleWidth]) (by rw [Stmt.pruned]) ?_
    rw [Stmt.render]
    exact .malformed

theorem ledStmts (style : Style) : ∀ (stmts : List (Option Stmt)) (d : Nat),
    ∀ s, some s ∈ stmts → LedStmt style d s
  | [], _, _, h => nomatch h
  | none :: rest, d, s, h => ledStmts style rest d s (by simpa using h)
  | some s' :: rest, d, s, h => by
    rcases List.mem_cons.mp h with h | h
    · cases h
      exact ledStmt style s' d
    · exact ledStmts style rest d s h

end

end PhpDecl
