import Mathlib.Data.List.Forall2
import Mathlib.Tactic.Common
import PhpDecl.Document.Build

/-!
# What building a document gives

A document builds a class step by step, up to the first fault. Where building succeeds, every step
has succeeded, and what was built is known from the parts of the document.

* `build_bind_eq_ok`, `inMethod_eq_ok`, `forall₂_of_buildEach`: a sequence of steps, a named step,
  and a step for each element of a list;
* `Document.Value.toExprOr_eq_ok`, `Document.Parameter.toParam_eq_ok`: values and parameters;
* **`Document.Statement.toStmt_eq_ok`**: the statements of a method body;
* `Document.Member.toMethod_eq_ok`, `Document.Member.toProperty_eq_ok`,
  `Document.Member.toConstant_eq_ok`, **`Document.Member.toStmt_eq_ok`**: the members of a class;
* **`Document.toClass_eq_ok`**: the class.
-/

namespace PhpDecl

section Steps

variable {α β : Type}

theorem build_bind_eq_ok {x : Except DocumentError α} {f : α → Except DocumentError β} {b : β} :
    (x >>= f) = .ok b ↔ ∃ a, x = .ok a ∧ f a = .ok b := by
  cases x with
  | error e => exact ⟨nofun, nofun⟩
  | ok a =>
    constructor
    · exact fun h => ⟨a, rfl, h⟩
    · rintro ⟨_, ha, h⟩
      cases ha
      exact h

theorem inMethod_eq_ok {name : String} {x : Except DocumentError α} {a : α} :
    inMethod name x = .ok a ↔ x = .ok a := by
  cases x with
  | error e => exact ⟨nofun, nofun⟩
  | ok b => exact Iff.rfl

/-- A list that was built was built element by element. -/
theorem forall₂_of_buildEach {f : α → Except DocumentError β} {xs : List α} {ys : List β}
    (h : buildEach f xs = .ok ys) : List.Forall₂ (fun x y => f x = .ok y) xs ys := by
  induction xs generalizing ys with
  | nil =>
    cases h
    exact .nil
  | cons x xs ih =>
    obtain ⟨y, hy, h⟩ := build_bind_eq_ok.mp h
    obtain ⟨more, hm, h⟩ := build_bind_eq_ok.mp h
    cases h
    exact .cons hy (ih hm)

end Steps

namespace Document

variable {flags : Modifiers} {s : Stmt}

/-! ## Values and parameters -/

theorem Value.toExprOr_eq_ok {v : Value} {missing : DocumentError} {e : Expr} :
    v.toExprOr missing = .ok e ↔ v.toExpr = .ok (some e) := by
  rw [Value.toExprOr, build_bind_eq_ok]
  constructor
  · rintro ⟨e', hv, h⟩
    cases e' with
    | none => exact nomatch h
    | some e' =>
      cases h
      exact hv
  · exact fun h => ⟨some e, h, rfl⟩

theorem Parameter.toParam_eq_ok {p : Parameter} {q : Param} (h : p.toParam = .ok q) :
    p.name ≠ "" ∧ ∃ flags default, buildModifiers p.modifiers = .ok flags ∧
      optionalExpr p.default = .ok default ∧
      q = { comments := buildComments p.comments, name := withoutSigil p.name,
            type := TypeExpr.ofText p.type, flags, byRef := p.byRef, variadic := p.variadic,
            default, attrGroups := buildAttributes p.attributes } := by
  rw [Parameter.toParam] at h
  split_ifs at h with hn
  obtain ⟨flags, hf, h⟩ := build_bind_eq_ok.mp h
  obtain ⟨default, hd, h⟩ := build_bind_eq_ok.mp h
  cases h
  exact ⟨hn, flags, default, hf, hd, rfl⟩

/-! ## Statements -/

theorem toArg_eq_ok {call : String} {v : Value} {a : Arg} (h : toArg call v = .ok a) :
    ∃ e, v.toExpr = .ok (some e) ∧ a = .mk [] (some e) false := by
  obtain ⟨e, he, h⟩ := build_bind_eq_ok.mp h
  cases h
  exact ⟨e, Value.toExprOr_eq_ok.mp he, rfl⟩

/-- **A statement that was built is given by the first alternative that is set**: a return, an
assignment, a call, a variable, or no code at all. -/
theorem Statement.toStmt_eq_ok {d : Statement} (h : d.toStmt = .ok s) :
    (∃ v e, d.ret = some v ∧ v.toExpr = .ok e ∧ s = .ret (buildComments d.comments) e) ∨
    (d.ret = none ∧ ∃ a target value, d.assign = some a ∧ a.target = .ok target ∧
      a.value.toExpr = .ok (some value) ∧
      s = .expression (buildComments d.comments)
        (some (.assign [] (some target) (some value)))) ∨
    (d.ret = none ∧ d.assign = none ∧ d.call ≠ "" ∧
      ∃ args, buildEach (toArg d.call) d.args = .ok args ∧
        s = .expression (buildComments d.comments) (some (.call [] d.call args))) ∨
    (d.ret = none ∧ d.assign = none ∧ d.call = "" ∧ d.var ≠ "" ∧
      s = .expression (buildComments d.comments) (some (.variable [] (withoutSigil d.var)))) ∨
    (d.ret = none ∧ d.assign = none ∧ d.call = "" ∧ d.var = "" ∧
      (d.nop || !d.comments.isEmpty) = true ∧ s = .nop (buildComments d.comments)) := by
  rw [Statement.toStmt] at h
  split at h
  · rename_i v hr
    obtain ⟨e, he, h⟩ := build_bind_eq_ok.mp h
    cases h
    exact .inl ⟨v, e, hr, he, rfl⟩
  · rename_i a hr ha
    obtain ⟨target, ht, h⟩ := build_bind_eq_ok.mp h
    obtain ⟨value, hv, h⟩ := build_bind_eq_ok.mp h
    cases h
    exact .inr (.inl ⟨hr, a, target, value, ha, ht, Value.toExprOr_eq_ok.mp hv, rfl⟩)
  · rename_i hr ha
    refine .inr (.inr ?_)
    split_ifs at h with hc hv hn
    · obtain ⟨args, hargs, h⟩ := build_bind_eq_ok.mp h
      cases h
      exact .inl ⟨hr, ha, hc, args, hargs, rfl⟩
    · cases h
      exact .inr (.inl ⟨hr, ha, not_not.mp hc, hv, rfl⟩)
    · cases h
      exact .inr (.inr ⟨hr, ha, not_not.mp hc, not_not.mp hv, hn, rfl⟩)

/-! ## Members -/

/-- A method that was built has no body exactly if it is abstract. -/
theorem Member.toMethod_eq_ok {m : Member} (h : m.toMethod flags = .ok s) :
    m.name ≠ "" ∧ ∃ params body, buildEach Parameter.toParam m.params = .ok params ∧
      s = .method { comments := buildComments m.comments, name := m.name, flags, byRef := m.byRef,
                    params, returns := TypeExpr.ofText m.returns,
                    attrGroups := buildAttributes m.attributes } body ∧
      ((flags.has .abstract = true ∧ m.body = [] ∧ body = none) ∨
        (flags.has .abstract = false ∧ ∃ stmts, buildEach Statement.toStmt m.body = .ok stmts ∧
          body = some (stmts.map some))) := by
  rw [Member.toMethod] at h
  split at h
  · exact nomatch h
  rename_i hn
  obtain ⟨params, hp, h⟩ := build_bind_eq_ok.mp h
  refine ⟨hn, params, ?_⟩
  dsimp only at h
  split_ifs at h with ha hb
  · cases h
    exact ⟨none, inMethod_eq_ok.mp hp, rfl, .inl ⟨ha, List.isEmpty_iff.mp hb, rfl⟩⟩
  · obtain ⟨stmts, hs, h⟩ := build_bind_eq_ok.mp h
    cases h
    exact ⟨some (stmts.map some), inMethod_eq_ok.mp hp, rfl,
      .inr ⟨Bool.eq_false_iff.mpr ha, stmts, inMethod_eq_ok.mp hs, rfl⟩⟩

theorem Member.toProperty_eq_ok {m : Member} (h : m.toProperty flags = .ok s) :
    m.name ≠ "" ∧ ∃ default, optionalExpr m.value = .ok default ∧
      s = .property { comments := buildComments m.comments, flags, type := TypeExpr.ofText m.type,
                      items := [{ name := m.name, default }],
                      attrGroups := buildAttributes m.attributes } := by
  rw [Member.toProperty] at h
  split_ifs at h with hn
  obtain ⟨default, hd, h⟩ := build_bind_eq_ok.mp h
  cases h
  exact ⟨hn, default, hd, rfl⟩

theorem Member.toConstant_eq_ok {m : Member} (h : m.toConstant flags = .ok s) :
    m.name ≠ "" ∧ ∃ v e, m.value = some v ∧ v.toExpr = .ok (some e) ∧
      s = .constants { comments := buildComments m.comments, flags,
                       items := [{ name := m.name, value := some e }],
                       attrGroups := buildAttributes m.attributes } := by
  rw [Member.toConstant] at h
  split at h
  · exact nomatch h
  · rename_i v hv
    split_ifs at h with hn
    obtain ⟨e, he, h⟩ := build_bind_eq_ok.mp h
    cases h
    exact ⟨hn, v, e, hv, Value.toExprOr_eq_ok.mp he, rfl⟩

/-- **A member that was built is of one of five kinds.** -/
theorem Member.toStmt_eq_ok {m : Member} (h : m.toStmt = .ok s) :
    ∃ flags, buildModifiers m.modifiers = .ok flags ∧
      ((m.kind = "method" ∧ m.toMethod flags = .ok s) ∨
        (m.kind = "property" ∧ m.toProperty flags = .ok s) ∨
        (m.kind = "const" ∧ m.toConstant flags = .ok s) ∨
        (m.kind = "use" ∧ m.traits ≠ [] ∧
          s = .traitUse { comments := buildComments m.comments, traits := m.traits }) ∨
        (m.kind = "nop" ∧ s = .nop (buildComments m.comments))) := by
  obtain ⟨flags, hf, h⟩ := build_bind_eq_ok.mp h
  refine ⟨flags, hf, ?_⟩
  split at h
  · exact .inl ⟨‹_›, h⟩
  · exact .inr (.inl ⟨‹_›, h⟩)
  · exact .inr (.inr (.inl ⟨‹_›, h⟩))
  · split_ifs at h with ht
    cases h
    exact .inr (.inr (.inr (.inl ⟨‹_›, fun he => ht (List.isEmpty_iff.mpr he), rfl⟩)))
  · cases h
    exact .inr (.inr (.inr (.inr ⟨‹_›, rfl⟩)))
  · exact nomatch h

/-! ## Classes -/

theorem forall₂_of_buildMembers {className : String} {index : Nat} {ms : List Member}
    {ss : List Stmt} (h : buildMembers className index ms = .ok ss) :
    List.Forall₂ (fun m s => m.toStmt = .ok s) ms ss := by
  induction ms generalizing index ss with
  | nil =>
    cases h
    exact .nil
  | cons m ms ih =>
    rw [buildMembers] at h
    split at h
    · exact nomatch h
    · obtain ⟨more, hm, h⟩ := build_bind_eq_ok.mp h
      cases h
      exact .cons ‹_› (ih hm)

/-- **A class that was built is described by the document.** -/
theorem toClass_eq_ok {d : Document} {c : ClassDecl} (h : d.toClass = .ok c) :
    ∃ content flags members, d.content = some content ∧ content.name ≠ "" ∧
      buildModifiers content.modifiers = .ok flags ∧
      List.Forall₂ (fun m s => m.toStmt = .ok s) content.members members ∧
      c = { head := { comments := buildComments content.comments, name := content.name, flags,
                      parent := content.parent, implements := content.implements,
                      attrGroups := buildAttributes content.attributes },
            members := members.map some } := by
  rw [Document.toClass] at h
  split at h
  · exact nomatch h
  · rename_i content hc
    rw [Class.toClass] at h
    split_ifs at h with hn
    obtain ⟨flags, hf, h⟩ := build_bind_eq_ok.mp h
    obtain ⟨members, hm, h⟩ := build_bind_eq_ok.mp h
    cases h
    exact ⟨content, flags, members, hc, hn, hf, forall₂_of_buildMembers hm, rfl⟩

end Document

end PhpDecl
