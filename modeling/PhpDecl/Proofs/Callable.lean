import Mathlib.Tactic.Common
import PhpDecl.Proofs.Layouts
import PhpDecl.Proofs.Texts
import PhpDecl.Render.Declaration

/-!
# Methods and functions

A method and a function are written alike: attributes, words up to the name, parameters, a return
type, and then a body or, for a method that is only declared, a semicolon.

* `Callable`, `Stmt.callable?`: what the two have in common;
* `Callable.words`, `Callable.signature`, `Callable.layout`: everything in front of the body, and
  the layout of its parameters;
* `Callable.Ending`: what follows the signature;
* **`Stmt.render_callable`**: a method or a function is its signature and its ending.
-/

namespace PhpDecl

open Traced

/-- A method or a function. -/
structure Callable where
  attrGroups : List AttrGroup
  flags : Modifiers
  byRef : Bool
  name : String
  params : List Param
  returns : Option TypeExpr
  body : Option (List (Option Stmt))

/-- A method with its body, if it has one. -/
def MethodHead.callable (head : MethodHead) (body : Option (List (Option Stmt))) : Callable :=
  ⟨head.attrGroups, head.flags, head.byRef, head.name, head.params, head.returns, body⟩

/-- A function with its body. -/
def FunctionHead.callable (head : FunctionHead) (body : List (Option Stmt)) : Callable :=
  ⟨head.attrGroups, .empty, head.byRef, head.name, head.params, head.returns, some body⟩

/-- The method or the function that a statement is. -/
def Stmt.callable? : Stmt → Option Callable
  | .method head body => some (head.callable body)
  | .function head body => some (head.callable body)
  | _ => none

namespace Callable

/-- The words from the modifiers to the name. -/
def words (c : Callable) : String := c.flags.text ++ "function " ++ refMark c.byRef ++ c.name

/-- The names and string values on the line of the name. -/
def lineTexts (c : Callable) : List String :=
  c.name :: c.params.flatMap Param.texts ++ TypeExpr.optTexts c.returns

/-- Everything up to the return type, with the layout of the parameters. -/
def signature (style : Style) (c : Callable) (depth : Int) : Traced (String × Layout) := do
  let attrs ← attrLines c.attrGroups depth
  PhpDecl.signature style (attrs ++ c.words) c.params c.returns depth

/-- The layout of the parameters. -/
def layout (style : Style) (c : Callable) (depth : Int) : Layout :=
  match (c.signature style depth).result with
  | .ok (_, layout) => layout
  | .error _ => .singleLine

theorem layout_of_signature {style : Style} {c : Callable} {depth : Int} {sig : String}
    {layout : Layout} (h : (c.signature style depth).result = .ok (sig, layout)) :
    c.layout style depth = layout := by
  rw [Callable.layout, h]

/-- The text after the signature: a semicolon, or the body between braces. -/
def Ending (style : Style) (c : Callable) (d : Nat) (layout : Layout) (text : String) : Prop :=
  match c.body with
  | none => text = ";"
  | some stmts => ∃ inner, (style.body (members style stmts) (d + 1)).result = .ok inner ∧
    text = opener layout (lineBreak d) ++ inner ++ lineBreak d ++ "\x7d"

theorem signature_of_lead {style : Style} {c : Callable} {depth : Int} {attrs lead : String}
    {p : String × Layout} (ha : (attrLines c.attrGroups depth).result = .ok attrs)
    (hlead : lead = attrs ++ c.words)
    (h : (PhpDecl.signature style lead c.params c.returns depth).result = .ok p) :
    (c.signature style depth).result = .ok p := by
  subst hlead
  exact (result_bind_ok ha _).trans h

/-- A signature with its body after it. -/
theorem ending_of_body {style : Style} {c : Callable} {d : Nat} {attrs lead text : String}
    {stmts : List (Option Stmt)} (wrap : TreeError → TreeError)
    (ha : (attrLines c.attrGroups d).result = .ok attrs) (hlead : lead = attrs ++ c.words)
    (hb : c.body = some stmts)
    (h : (do
      let (sig, layout) ← (PhpDecl.signature style lead c.params c.returns d).within wrap
      let inner ← (style.body (members style stmts) (d + 1)).within wrap
      let nl ← newline d
      return sig ++ opener layout nl ++ inner ++ nl ++ "\x7d" : Traced String).result = .ok text) :
    ∃ sig layout ending, (c.signature style d).result = .ok (sig, layout) ∧
      c.Ending style d layout ending ∧ text = sig ++ ending := by
  obtain ⟨⟨sig, layout⟩, hs, h⟩ := result_bind_eq_ok.mp h
  obtain ⟨inner, hi, h⟩ := result_bind_eq_ok.mp h
  rw [newline_natCast] at h
  cases h
  refine ⟨sig, layout, opener layout (lineBreak d) ++ inner ++ lineBreak d ++ "\x7d",
    signature_of_lead ha hlead (result_within_eq_ok.mp hs), ?_, ?_⟩
  · rw [Ending, hb]
    exact ⟨inner, result_within_eq_ok.mp hi, rfl⟩
  · simp only [String.append_assoc]

/-- A signature is made of attributes, words, a parameter list and a return type. -/
theorem signature_eq_ok {style : Style} {c : Callable} {depth : Int} {sig : String}
    {layout : Layout} (h : (c.signature style depth).result = .ok (sig, layout)) :
    ∃ attrs list ret, (attrLines c.attrGroups depth).result = .ok attrs ∧
      (returnAfter c.returns).result = .ok ret ∧
      (style.paramList (paramItems c.params) (columnAfter depth (attrs ++ c.words))
        (Text.width ret) depth).result = .ok (list, layout) ∧
      sig = attrs ++ c.words ++ "(" ++ list ++ ")" ++ ret := by
  obtain ⟨attrs, ha, h⟩ := result_bind_eq_ok.mp h
  obtain ⟨ret, hr, h⟩ := result_bind_eq_ok.mp h
  obtain ⟨⟨list, layout'⟩, hl, h⟩ := result_bind_eq_ok.mp h
  cases h
  exact ⟨attrs, list, ret, ha, hr, hl, rfl⟩

end Callable

/-- **A method or a function is its signature and its ending.** -/
theorem Stmt.render_callable {style : Style} {s : Stmt} {c : Callable} {d : Nat} {text : String}
    (hs : s.callable? = some c) (h : (s.render style d).result = .ok text) :
    ∃ sig layout ending, (c.signature style d).result = .ok (sig, layout) ∧
      c.Ending style d layout ending ∧ text = sig ++ ending := by
  match s, hs with
  | .method head none, rfl =>
    rw [Stmt.render] at h
    split_ifs at h
    · exact nomatch h
    · obtain ⟨attrs, ha, h⟩ := result_bind_eq_ok.mp h
      obtain ⟨⟨sig, layout⟩, hs, h⟩ := result_bind_eq_ok.mp h
      cases h
      refine ⟨sig, layout, ";", Callable.signature_of_lead ha ?_ (result_within_eq_ok.mp hs),
        rfl, rfl⟩
      simp only [Callable.words, MethodHead.callable, String.append_assoc]
  | .method head (some stmts), rfl =>
    rw [Stmt.render] at h
    split_ifs at h
    · exact nomatch h
    · obtain ⟨attrs, ha, h⟩ := result_bind_eq_ok.mp h
      refine Callable.ending_of_body (.inMethod head.name) ha ?_ rfl h
      simp only [Callable.words, MethodHead.callable, String.append_assoc]
  | .function head stmts, rfl =>
    rw [Stmt.render] at h
    split_ifs at h
    · exact nomatch h
    · obtain ⟨attrs, ha, h⟩ := result_bind_eq_ok.mp h
      refine Callable.ending_of_body (.inFunction head.name) ha ?_ rfl h
      have he : Modifiers.empty.text = "" := by decide
      simp only [Callable.words, FunctionHead.callable, he, String.empty_append,
        String.append_assoc]

end PhpDecl
