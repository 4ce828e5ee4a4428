import PhpDecl.Proofs.Building
import PhpDecl.Proofs.Verdict
import PhpDecl.SourceFile

/-!
# Documents that build and do not print

A document is checked when its class is built, and the class is checked when it is printed. The
second check finds only what the first one lets pass: a parameter that is nothing but a dollar sign,
and a type with a piece that names nothing.

* `Document.namesNothing`, `Document.brokenType`: pieces and texts of types that have no reading;
* `allowed_ofText`: the type of a text is well formed unless the text is broken;
* `Document.Parameter.unprintable`, `Document.Member.unprintable`, `Document.unprintable`: what lets
  a document fail to print;
* `wellFormed_toParam`, `wellFormed_statement`, `wellFormed_toMethod`, `wellFormed_member`,
  **`wellFormed_toClass`**: what is built is well formed unless it is unprintable;
* **`Document.printFile_error_iff`**: the class of a document fails to print exactly if the document
  is unprintable, and then because of the tree.
-/

namespace PhpDecl

open Traced

/-! ## Types -/

namespace Document

/-- A piece of a type made of white space and question marks only. -/
def namesNothing (piece : List Char) : Bool := piece.all fun c => Text.isBlank c || c == '?'

/-- A text of a type that is not blank and has a piece between bars that names nothing. -/
def brokenType (s : String) : Bool :=
  !s.toList.all Text.isBlank && (s.toList.splitOn '|').any namesNothing

end Document

open Document

/-- A piece reads as a well-formed type unless it names nothing. -/
theorem present_ofPiece (cs : List Char) :
    TypeExpr.present (TypeExpr.ofPiece cs) = !namesNothing cs := by
  induction cs with
  | nil => rfl
  | cons c cs ih =>
    rw [TypeExpr.ofPiece, namesNothing, List.all_cons]
    by_cases hb : Text.isBlank c = true
    · rw [if_pos hb, ih, hb]
      rfl
    · rw [if_neg hb, Bool.eq_false_iff.mpr hb, Bool.false_or]
      by_cases hq : c = '?'
      · rw [if_pos hq, hq, TypeExpr.present, TypeExpr.wellFormed, ih]
        rfl
      · rw [if_neg hq, beq_false_of_ne hq]
        rfl

theorem ofPiece_eq_none_iff (cs : List Char) :
    TypeExpr.ofPiece cs = none ↔ cs.all Text.isBlank = true := by
  induction cs with
  | nil => exact ⟨fun _ => rfl, fun _ => rfl⟩
  | cons c cs ih =>
    rw [TypeExpr.ofPiece, List.all_cons, Bool.and_eq_true]
    split_ifs with hb hq
    · rw [ih]
      exact ⟨fun h => ⟨hb, h⟩, fun h => h.2⟩
    · exact ⟨nofun, fun h => absurd h.1 hb⟩
    · exact ⟨nofun, fun h => absurd h.1 hb⟩

theorem allPresent_map_ofPiece (pieces : List (List Char)) :
    TypeExpr.allPresent (pieces.map TypeExpr.ofPiece) = !pieces.any namesNothing := by
  induction pieces with
  | nil => rfl
  | cons p pieces ih =>
    rw [List.map_cons, TypeExpr.allPresent, present_ofPiece, ih, List.any_cons, Bool.not_or]

/-- **The type that a text stands for is well formed unless the text is broken.** -/
theorem allowed_ofText (s : String) : TypeExpr.allowed (TypeExpr.ofText s) = !brokenType s := by
  rw [TypeExpr.ofText, TypeExpr.ofChars, brokenType]
  generalize s.toList = cs
  split_ifs with hbar
  · have hb : cs.all Text.isBlank = false := by
      rw [List.all_eq_false]
      exact ⟨'|', hbar, by decide⟩
    rw [hb, Bool.not_false, Bool.true_and]
    exact allPresent_map_ofPiece (cs.splitOn '|')
  · rw [List.splitOn_eq_singleton hbar, List.any_cons, List.any_nil, Bool.or_false]
    have hp := present_ofPiece cs
    have hn := ofPiece_eq_none_iff cs
    cases ht : TypeExpr.ofPiece cs with
    | none =>
      rw [hn.mp ht]
      rfl
    | some t =>
      have hb : cs.all Text.isBlank = false := by
        rw [Bool.eq_false_iff]
        intro h
        rw [hn.mpr h] at ht
        cases ht
      rw [ht] at hp
      rw [hb]
      exact hp

/-! ## What does not print -/

namespace Document

/-- The parameter is a lone dollar sign, or its type is broken. -/
def Parameter.unprintable (p : Parameter) : Bool := p.name == "$" || brokenType p.type

/-- A method with a broken return type or an unprintable parameter, or a property with a broken
type. -/
def Member.unprintable (m : Member) : Bool :=
  (m.kind == "method" && (brokenType m.returns || m.params.any Parameter.unprintable)) ||
    (m.kind == "property" && brokenType m.type)

/-- Some member of the class that the document describes is unprintable. -/
def unprintable (d : Document) : Bool := d.content.any fun c => c.members.any Member.unprintable

end Document

/-! ## What is built -/

theorem all_of_forall₂ {α β : Type} {R : α → β → Prop} {xs : List α} {ys : List β} {p : β → Bool}
    {q : α → Bool} (h : List.Forall₂ R xs ys) (hR : ∀ x y, R x y → p y = !q x) :
    ys.all p = !xs.any q := by
  induction h with
  | nil => rfl
  | cons hxy _ ih => rw [List.all_cons, List.any_cons, ih, hR _ _ hxy, Bool.not_or]

theorem wellFormed_buildAttributes (names : List String) :
    (buildAttributes names).all AttrGroup.wellFormed = true := by
  rw [buildAttributes, List.all_map, List.all_eq_true]
  exact fun _ _ => rfl

theorem withoutSigil_eq_empty_iff {name : String} (h : name ≠ "") :
    withoutSigil name = "" ↔ name = "$" := by
  rw [withoutSigil]
  split
  · rename_i rest hr
    rw [← String.toList_inj, ← String.toList_inj, String.toList_ofList, hr]
    simp
  · rename_i hr
    refine iff_of_false h ?_
    rintro rfl
    exact hr [] rfl

theorem wellFormed_alternatives {v : Value} {e : Expr} (h : e ∈ v.alternatives) :
    e.wellFormed = true := by
  simp only [Value.alternatives, List.mem_append, Option.mem_toList,
    Option.map_eq_some_iff] at h
  rcases h with (((⟨s, _, rfl⟩ | ⟨n, _, rfl⟩) | h) | h) | h
  · rfl
  · rfl
  all_goals
    split_ifs at h
    · exact nomatch h
    · rw [List.mem_singleton.mp h]
      rfl

/-- The expression of a value is well formed, if it sets anything. -/
theorem allowed_toExpr {v : Value} {e : Option Expr} (h : v.toExpr = .ok e) :
    Expr.allowed e = true := by
  have hw := @wellFormed_alternatives v
  rw [Value.toExpr] at h
  split at h
  · cases h
    rfl
  · rename_i e' ha
    cases h
    rw [Expr.allowed]
    exact hw (ha ▸ List.mem_singleton_self e')
  · exact nomatch h

theorem allowed_optionalExpr {v : Option Value} {e : Option Expr} (h : optionalExpr v = .ok e) :
    Expr.allowed e = true := by
  cases v with
  | none =>
    cases h
    rfl
  | some v => exact allowed_toExpr h

/-- **A parameter is well formed unless it is unprintable.** -/
theorem wellFormed_toParam {p : Parameter} {q : Param} (h : p.toParam = .ok q) :
    q.wellFormed = !p.unprintable := by
  obtain ⟨hn, flags, default, _, hd, rfl⟩ := Parameter.toParam_eq_ok h
  have hname : decide (withoutSigil p.name ≠ "") = !(p.name == "$") := by
    rw [Bool.eq_iff_iff]
    simp [withoutSigil_eq_empty_iff hn]
  rw [Param.wellFormed, wellFormed_buildAttributes, allowed_ofText, allowed_optionalExpr hd, hname,
    Parameter.unprintable, Bool.and_true, Bool.and_true, Bool.not_or]

theorem wellFormed_target {a : Assignment} {e : Expr} (h : a.target = .ok e) :
    e.wellFormed = true := by
  rw [Assignment.target] at h
  split_ifs at h
  · cases h
    rfl
  · cases h
    rfl

theorem allWellFormed_args {call : String} {vs : List Value} {args : List Arg}
    (h : buildEach (toArg call) vs = .ok args) : Arg.allWellFormed args = true := by
  have hargs := forall₂_of_buildEach h
  clear h
  induction hargs with
  | nil => rfl
  | cons ha _ ih =>
    obtain ⟨e, he, rfl⟩ := toArg_eq_ok ha
    rw [Arg.allWellFormed, ih, Bool.and_true]
    exact allowed_toExpr he

/-- **A statement of a method body is well formed.** -/
theorem wellFormed_statement {d : Statement} {s : Stmt} (h : d.toStmt = .ok s) :
    s.wellFormed = true := by
  rcases Statement.toStmt_eq_ok h with ⟨v, e, _, he, rfl⟩ |
    ⟨_, a, target, value, _, ht, hv, rfl⟩ | ⟨_, _, _, args, hargs, rfl⟩ | ⟨_, _, _, _, rfl⟩ |
    ⟨_, _, _, _, _, rfl⟩
  · rw [Stmt.wellFormed]
    exact allowed_toExpr he
  · rw [Stmt.wellFormed, Expr.present, Expr.wellFormed, Expr.present, wellFormed_target ht]
    exact allowed_toExpr hv
  · rw [Stmt.wellFormed, Expr.present, Expr.wellFormed]
    exact allWellFormed_args hargs
  · rfl
  · rfl

theorem allWellFormed_map_some (ss : List Stmt) :
    Stmt.allWellFormed (ss.map some) = ss.all Stmt.wellFormed := by
  induction ss with
  | nil => rfl
  | cons s ss ih => rw [List.map_cons, Stmt.allWellFormed, ih, List.all_cons, Stmt.present]

/-- **A method is well formed unless its return type or one of its parameters is unprintable.** -/
theorem wellFormed_toMethod {m : Document.Member} {flags : Modifiers} {s : Stmt}
    (h : m.toMethod flags = .ok s) :
    s.wellFormed = !(brokenType m.returns || m.params.any Parameter.unprintable) := by
  obtain ⟨hn, params, body, hp, rfl, hbody⟩ := Member.toMethod_eq_ok h
  have hname : decide (m.name ≠ "") = true := decide_eq_true hn
  have hparams : params.all Param.wellFormed = !m.params.any Parameter.unprintable :=
    all_of_forall₂ (forall₂_of_buildEach hp) fun _ _ => wellFormed_toParam
  rcases hbody with ⟨_, _, rfl⟩ | ⟨_, stmts, hs, rfl⟩
  · rw [Stmt.wellFormed, MethodHead.wellFormed, wellFormed_buildAttributes, allowed_ofText, hname,
      hparams, Bool.and_true, Bool.true_and, Bool.not_or]
  · have hstmts : stmts.all Stmt.wellFormed = true := by
      rw [all_of_forall₂ (q := fun _ => false) (forall₂_of_buildEach hs)
        fun _ _ => wellFormed_statement]
      simp
    rw [Stmt.wellFormed, MethodHead.wellFormed, wellFormed_buildAttributes, allowed_ofText, hname,
      hparams, allWellFormed_map_some, hstmts, Bool.and_true, Bool.and_true, Bool.true_and,
      Bool.not_or]

/-- **A member is well formed unless it is unprintable.** -/
theorem wellFormed_member {m : Document.Member} {s : Stmt} (h : m.toStmt = .ok s) :
    s.wellFormed = !m.unprintable := by
  obtain ⟨flags, _, hkind⟩ := Member.toStmt_eq_ok h
  rw [Member.unprintable]
  rcases hkind with ⟨hk, h⟩ | ⟨hk, h⟩ | ⟨hk, h⟩ | ⟨hk, ht, rfl⟩ | ⟨hk, rfl⟩
  · rw [wellFormed_toMethod h, hk]
    simp
  · obtain ⟨_, default, hd, rfl⟩ := Member.toProperty_eq_ok h
    rw [Stmt.wellFormed, Property.wellFormed, wellFormed_buildAttributes, allowed_ofText, hk]
    simp [PropertyItem.wellFormed, allowed_optionalExpr hd]
  · obtain ⟨_, v, e, _, he, rfl⟩ := Member.toConstant_eq_ok h
    have hw : ConstItem.wellFormed { name := m.name, value := some e } = true := allowed_toExpr he
    rw [Stmt.wellFormed, Constants.wellFormed, wellFormed_buildAttributes, hk]
    simp [hw]
  · rw [Stmt.wellFormed, hk]
    simpa using ht
  · rw [Stmt.wellFormed, hk]
    rfl

/-- **The class of a document is well formed unless the document is unprintable.** -/
theorem wellFormed_toClass {doc : Document} {c : ClassDecl} (h : doc.toClass = .ok c) :
    c.toStmt.wellFormed = !doc.unprintable := by
  obtain ⟨content, flags, ss, hc, _, _, hm, rfl⟩ := toClass_eq_ok h
  rw [ClassDecl.toStmt, Stmt.wellFormed, wellFormed_buildAttributes, Bool.true_and,
    allWellFormed_map_some, Document.unprintable, hc, Option.any_some]
  exact all_of_forall₂ hm fun _ _ => wellFormed_member

/-! ## Printing -/

/-- A list of statements that does not print has a fault in its tree. -/
theorem malformed_of_prettyPrint_error {style : Style} {stmts : List (Option Stmt)} {e : Failure}
    (h : (prettyPrint style stmts).result = .error e) : ∃ cause, e = .malformed cause := by
  have hm := (essenceStyles style .standard).alike_members stmts fun _ _ => trivial
  have ha : Alike essenceLikeness.Texts (style.body (members style stmts) (0 : Nat))
      (compactBody (members .standard stmts) (0 : Nat)) :=
    alike_body_compactBody hm style
  cases hb : (style.body (members style stmts) (0 : Nat)).result with
  | ok text => exact nomatch (result_bind_ok hb _).symm.trans h
  | error e' =>
    cases (result_bind_error hb _).symm.trans h
    exact ha.exists_malformed hb

/-- **Which documents build and do not print.** The class that a document describes fails to print
in the style of files exactly if some method parameter is a lone dollar sign or some printed type is
broken, and then the fault is one of the tree. -/
theorem Document.printFile_error_iff {doc : Document} {c : ClassDecl} (h : doc.toClass = .ok c) :
    ((∃ e, (printFile defaultStyle (some c.toStmt)).result = .error e) ↔ doc.unprintable = true) ∧
    ∀ e, (printFile defaultStyle (some c.toStmt)).result = .error e → ∃ cause : TreeError,
      e = .malformed cause ∧ TreeError.heading.toList <:+: cause.message.toList := by
  have hw := wellFormed_toClass h
  have hs : (prettyPrint defaultStyle [some c.toStmt]).succeeds = c.toStmt.wellFormed := by
    rw [succeeds_prettyPrint, Stmt.allWellFormed, Stmt.allWellFormed, Bool.and_true, Stmt.present]
  cases hp : (prettyPrint defaultStyle [some c.toStmt]).result with
  | ok text =>
    have hr : (printFile defaultStyle (some c.toStmt)).result = .ok (prologue ++ text) :=
      result_bind_ok hp _
    have hu : doc.unprintable = false := by
      rw [← Bool.not_eq_true', ← hw, ← hs]
      exact succeeds_iff.mpr ⟨text, hp⟩
    rw [hr, hu]
    refine ⟨iff_of_false ?_ (by decide), ?_⟩
    · rintro ⟨e, he⟩
      cases he
    · intro e he
      cases he
  | error e =>
    have hr : (printFile defaultStyle (some c.toStmt)).result = .error e := result_bind_error hp _
    have hu : doc.unprintable = true := by
      rw [← Bool.not_eq_false', ← hw, ← hs]
      unfold Traced.succeeds
      rw [hp]
      rfl
    obtain ⟨cause, rfl⟩ := malformed_of_prettyPrint_error hp
    rw [hr, hu]
    refine ⟨iff_of_true ⟨_, rfl⟩ rfl, ?_⟩
    rintro _ ⟨⟩
    exact ⟨cause, rfl, cause.heading_isInfix_message⟩

/-- A method with a lone dollar sign for a parameter and a property whose type has an empty piece:
both documents build a class, and neither class prints. -/
theorem Document.printFile_error_iff_lone_sigil :
    (∃ c, Document.toClass { content := some { name := "C", members :=
        [{ kind := "method", name := "f", params := [{ name := "$" }] }] } } = .ok c ∧
      ∃ e, (printFile defaultStyle (some c.toStmt)).result = .error e) ∧
    ∃ c, Document.toClass { content := some { name := "C", members :=
        [{ kind := "property", name := "p", type := "a| ?" }] } } = .ok c ∧
      ∃ e, (printFile defaultStyle (some c.toStmt)).result = .error e := by
  have hsigil := @Document.printFile_error_iff { content := some { name := "C", members :=
    [{ kind := "method", name := "f", params := [{ name := "$" }] }] } } _ rfl
  have htype := @Document.printFile_error_iff { content := some { name := "C", members :=
    [{ kind := "property", name := "p", type := "a| ?" }] } } _ rfl
  exact ⟨⟨_, rfl, hsigil.1.mpr (by decide)⟩, ⟨_, rfl, htype.1.mpr (by decide)⟩⟩

end PhpDecl
