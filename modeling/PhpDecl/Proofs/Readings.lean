import Mathlib.Data.List.Forall2
import PhpDecl.Proofs.Layouts
import PhpDecl.Proofs.Phrases
import PhpDecl.Proofs.Results
import PhpDecl.Proofs.WellFormed
import PhpDecl.Render.Expr

/-!
# Expressions and their readings

The text of an expression without comments does not depend on the depth. It is the text of a phrase
that the tree determines: the phrase of the target of a fetch, a call or an assignment, with one
more step in its tail. How assignments are grouped in the tree is lost on the way.

* `Expr.isTidy`: no comments, and identifiers for names;
* `Expr.phraseOnto`, `Arg.entries`, `ArrayItem.entries`: the phrase of an expression that is
  followed by a tail, and the entries of lists;
* `toList_intercalate_of_reads`, `result_maybeMultiline`: lists on one line;
* **`Expr.render_reads`**: the text of an expression is that of its phrase.
-/

namespace PhpDecl

open Traced

/-! ## Tidy expressions -/

mutual

/-- There are no comments in the expression, and its names are identifiers. -/
def Expr.isTidy : Expr → Bool
  | .variable cs name => cs.isEmpty && isIdentifier name
  | .string cs _ => cs.isEmpty
  | .integer cs _ => cs.isEmpty
  | .constant cs name => cs.isEmpty && isIdentifier name
  | .call cs name args => cs.isEmpty && isIdentifier name && Arg.allTidy args
  | .methodCall cs target name args =>
    cs.isEmpty && Expr.optTidy target && isIdentifier name && Arg.allTidy args
  | .fetch cs target name => cs.isEmpty && Expr.optTidy target && isIdentifier name
  | .assign cs target value => cs.isEmpty && Expr.optTidy target && Expr.optTidy value
  | .array cs items => cs.isEmpty && ArrayItem.allTidy items
  | .foreign cs _ => cs.isEmpty

/-- The expression is missing or tidy. -/
def Expr.optTidy : Option Expr → Bool
  | none => true
  | some e => e.isTidy

/-- The argument has no comments and a tidy value. -/
def Arg.isTidy : Arg → Bool
  | .mk cs value _ => cs.isEmpty && Expr.optTidy value

/-- All arguments are tidy. -/
def Arg.allTidy : List Arg → Bool
  | [] => true
  | a :: rest => a.isTidy && Arg.allTidy rest

/-- The array element has no comments, and its key and its value are tidy. -/
def ArrayItem.isTidy : ArrayItem → Bool
  | .mk cs key value => cs.isEmpty && Expr.optTidy key && Expr.optTidy value

/-- All array elements are tidy. -/
def ArrayItem.allTidy : List ArrayItem → Bool
  | [] => true
  | i :: rest => i.isTidy && ArrayItem.allTidy rest

end

/-! ## Phrases of expressions -/

mutual

/-- The phrase of an expression that is followed by a tail. What is missing or unknown stands for
some constant. -/
def Expr.phraseOnto : Expr → Tail → Phrase
  | .variable _ name, t => .mk (.var (.ofText name)) t
  | .string _ value, t => .mk (.string value) t
  | .integer _ value, t => .mk (.integer value) t
  | .constant _ name, t => .mk (.constant (.ofText name)) t
  | .call _ name args, t => .mk (.call (.ofText name) (Arg.entries args)) t
  | .methodCall _ target name args, t =>
    Expr.optPhraseOnto target (.method (.ofText name) (Arg.entries args) t)
  | .fetch _ target name, t => Expr.optPhraseOnto target (.fetch (.ofText name) t)
  | .assign _ target value, t => Expr.optPhraseOnto target (.assign (Expr.optPhraseOnto value t))
  | .array _ items, t => .mk (.array (ArrayItem.entries items)) t
  | .foreign _ _, t => .mk (.constant default) t

/-- The phrase of an expression that may be missing. -/
def Expr.optPhraseOnto : Option Expr → Tail → Phrase
  | none, t => .mk (.constant default) t
  | some e, t => e.phraseOnto t

/-- An argument as an entry of a list. -/
def Arg.entry : Arg → ListEntry
  | .mk _ value unpack =>
    if unpack then .unpacked (Expr.optPhraseOnto value .done)
    else .plain (Expr.optPhraseOnto value .done)

/-- Arguments as entries. -/
def Arg.entries : List Arg → List ListEntry
  | [] => []
  | a :: rest => a.entry :: Arg.entries rest

/-- An array element as an entry of a list. -/
def ArrayItem.entry : ArrayItem → ListEntry
  | .mk _ none value => .plain (Expr.optPhraseOnto value .done)
  | .mk _ (some key) value => .keyed (key.phraseOnto .done) (Expr.optPhraseOnto value .done)

/-- Array elements as entries. -/
def ArrayItem.entries : List ArrayItem → List ListEntry
  | [] => []
  | i :: rest => i.entry :: ArrayItem.entries rest

end

/-! ## Lists on one line -/

theorem hasComments_argItems : ∀ args : List Arg, Arg.allTidy args = true →
    hasComments (argItems args) = false
  | [], _ => by
    rw [argItems]
    rfl
  | .mk cs value unpack :: rest, h => by
    simp only [Arg.allTidy, Arg.isTidy, Bool.and_eq_true] at h
    have hrest := hasComments_argItems rest h.2
    unfold hasComments at hrest ⊢
    rw [argItems, List.any_cons, hrest, Bool.or_false]
    simpa [Arg.comments] using h.1.1

theorem hasComments_arrayItems : ∀ items : List ArrayItem, ArrayItem.allTidy items = true →
    hasComments (arrayItems items) = false
  | [], _ => by
    rw [arrayItems]
    rfl
  | .mk cs key value :: rest, h => by
    simp only [ArrayItem.allTidy, ArrayItem.isTidy, Bool.and_eq_true] at h
    have hrest := hasComments_arrayItems rest h.2
    unfold hasComments at hrest ⊢
    rw [arrayItems, List.any_cons, hrest, Bool.or_false]
    simpa [ArrayItem.comments] using h.1.1.1

theorem result_maybeMultiline {items : List (Option Item)} {parts : List String} {d : Int}
    (hr : Readable items) (hc : hasComments items = false)
    (h : (itemTexts items d).result = .ok parts) (trailing : Bool) :
    (maybeMultiline items trailing d).result = .ok (", ".intercalate parts) := by
  rw [maybeMultiline_of_readable hr, hc, if_neg nofun, commaSeparated, result_bind_ok h]
  rfl

/-- The texts are those of the entries, one by one. -/
def ReadAs (parts : List String) (entries : List ListEntry) : Prop :=
  List.Forall₂ (fun (s : String) (e : ListEntry) => e.chars = s.toList) parts entries

theorem toList_intercalate_of_reads {parts : List String} {entries : List ListEntry}
    (h : ReadAs parts entries) :
    (", ".intercalate parts).toList = ListEntry.listChars entries := by
  -- the entries after the first one each have their comma in front
  have hmore : ∀ {parts : List String} {entries : List ListEntry}, ReadAs parts entries →
      ∀ s : String, (", ".intercalate (s :: parts)).toList =
        s.toList ++ ListEntry.moreChars entries := by
    intro parts entries h
    induction h with
    | nil =>
      intro s
      rw [String.intercalate_singleton, ListEntry.moreChars, List.append_nil]
    | cons he _ ih =>
      intro s
      rw [String.intercalate_cons_cons, String.toList_append, String.toList_append, ih,
        ListEntry.moreChars, he]
      simp
  cases h with
  | nil =>
    rw [ListEntry.listChars]
    rfl
  | cons he hrest =>
    rw [hmore hrest, ListEntry.listChars, he]

/-! ## Texts -/

mutual

/-- **The text of a tidy expression is that of its phrase**, at any depth. -/
theorem Expr.render_reads : ∀ e : Expr, e.wellFormed = true → e.isTidy = true → ∀ d : Int,
    ∃ s, (e.render d).result = .ok s ∧ ∀ t : Tail, (e.phraseOnto t).chars = s.toList ++ t.chars
  | .variable cs name, _, ht, d => by
    rw [Expr.isTidy, Bool.and_eq_true] at ht
    refine ⟨"$" ++ name, by rw [Expr.render]; rfl, fun t => ?_⟩
    rw [Expr.phraseOnto, Phrase.chars, Atom.chars, Identifier.chars, Identifier.text_ofText ht.2]
    simp
  | .string cs value, _, _, d => by
    refine ⟨Text.literal value, by rw [Expr.render]; rfl, fun t => ?_⟩
    rw [Expr.phraseOnto, Phrase.chars, Atom.chars, Text.literal, String.toList_ofList]
    rfl
  | .integer cs value, _, _, d => by
    refine ⟨value.repr, by rw [Expr.render]; rfl, fun t => ?_⟩
    rw [Expr.phraseOnto, Phrase.chars, Atom.chars]
  | .constant cs name, _, ht, d => by
    rw [Expr.isTidy, Bool.and_eq_true] at ht
    refine ⟨name, by rw [Expr.render]; rfl, fun t => ?_⟩
    rw [Expr.phraseOnto, Phrase.chars, Atom.chars, Identifier.chars, Identifier.text_ofText ht.2]
  | .call cs name args, hw, ht, d => by
    rw [Expr.wellFormed] at hw
    simp only [Expr.isTidy, Bool.and_eq_true] at ht
    obtain ⟨⟨_, hname⟩, hargs⟩ := ht
    obtain ⟨parts, hparts, hreads⟩ := Arg.itemTexts_read args hw hargs d
    have hlist := result_maybeMultiline (readable_argItems args)
      (hasComments_argItems args hargs) hparts false
    refine ⟨name ++ "(" ++ ", ".intercalate parts ++ ")", ?_, fun t => ?_⟩
    · rw [Expr.render, result_bind_ok hlist]
      rfl
    · rw [Expr.phraseOnto, Phrase.chars, Atom.chars, Identifier.chars,
        Identifier.text_ofText hname]
      simp [toList_intercalate_of_reads hreads]
  | .methodCall _ none _ _, hw, _, _ => by
    rw [Expr.wellFormed, Expr.present, Bool.false_and] at hw
    cases hw
  | .methodCall cs (some target) name args, hw, ht, d => by
    simp only [Expr.wellFormed, Expr.present, Bool.and_eq_true] at hw
    simp only [Expr.isTidy, Expr.optTidy, Bool.and_eq_true] at ht
    obtain ⟨⟨⟨_, htarget⟩, hname⟩, hargs⟩ := ht
    obtain ⟨object, hobject, hreads⟩ := Expr.render_reads target hw.1 htarget d
    obtain ⟨parts, hparts, hentries⟩ := Arg.itemTexts_read args hw.2 hargs d
    have hlist := result_maybeMultiline (readable_argItems args)
      (hasComments_argItems args hargs) hparts false
    refine ⟨object ++ "->" ++ name ++ "(" ++ ", ".intercalate parts ++ ")", ?_, fun t => ?_⟩
    · rw [Expr.render, exprText, result_bind_ok hobject, result_bind_ok hlist]
      rfl
    · rw [Expr.phraseOnto, Expr.optPhraseOnto, hreads, Tail.chars, Identifier.chars,
        Identifier.text_ofText hname]
      simp [toList_intercalate_of_reads hentries]
  | .fetch _ none _, hw, _, _ => by
    rw [Expr.wellFormed, Expr.present] at hw
    cases hw
  | .fetch cs (some target) name, hw, ht, d => by
    rw [Expr.wellFormed, Expr.present] at hw
    simp only [Expr.isTidy, Expr.optTidy, Bool.and_eq_true] at ht
    obtain ⟨⟨_, htarget⟩, hname⟩ := ht
    obtain ⟨object, hobject, hreads⟩ := Expr.render_reads target hw htarget d
    refine ⟨object ++ "->" ++ name, ?_, fun t => ?_⟩
    · rw [Expr.render, exprText, result_bind_ok hobject]
      rfl
    · rw [Expr.phraseOnto, Expr.optPhraseOnto, hreads, Tail.chars, Identifier.chars,
        Identifier.text_ofText hname]
      simp
  | .assign _ none _, hw, _, _ => by
    rw [Expr.wellFormed, Expr.present, Bool.false_and] at hw
    cases hw
  | .assign _ (some _) none, hw, _, _ => by
    simp only [Expr.wellFormed, Expr.present, Bool.and_false] at hw
    cases hw
  | .assign cs (some target) (some value), hw, ht, d => by
    simp only [Expr.wellFormed, Expr.present, Bool.and_eq_true] at hw
    simp only [Expr.isTidy, Expr.optTidy, Bool.and_eq_true] at ht
    obtain ⟨⟨_, htarget⟩, hvalue⟩ := ht
    obtain ⟨left, hleft, hreads⟩ := Expr.render_reads target hw.1 htarget d
    obtain ⟨right, hright, hreads'⟩ := Expr.render_reads value hw.2 hvalue d
    refine ⟨left ++ " = " ++ right, ?_, fun t => ?_⟩
    · rw [Expr.render, exprText, exprText, result_bind_ok hleft, result_bind_ok hright]
      rfl
    · rw [Expr.phraseOnto, Expr.optPhraseOnto, Expr.optPhraseOnto, hreads, Tail.chars, hreads']
      simp
  | .array cs items, hw, ht, d => by
    rw [Expr.wellFormed] at hw
    rw [Expr.isTidy, Bool.and_eq_true] at ht
    obtain ⟨parts, hparts, hreads⟩ := ArrayItem.itemTexts_read items hw ht.2 d
    have hlist := result_maybeMultiline (readable_arrayItems items)
      (hasComments_arrayItems items ht.2) hparts true
    refine ⟨"[" ++ ", ".intercalate parts ++ "]", ?_, fun t => ?_⟩
    · rw [Expr.render, result_bind_ok hlist]
      rfl
    · rw [Expr.phraseOnto, Phrase.chars, Atom.chars]
      simp [toList_intercalate_of_reads hreads]
  | .foreign _ _, hw, _, _ => by
    rw [Expr.wellFormed] at hw
    cases hw

theorem Expr.exprText_reads : ∀ e : Option Expr, Expr.present e = true → Expr.optTidy e = true →
    ∀ d : Int, ∃ s, (exprText e d).result = .ok s ∧
      (Expr.optPhraseOnto e .done).chars = s.toList
  | none, hw, _, _ => by
    rw [Expr.present] at hw
    cases hw
  | some e, hw, ht, d => by
    rw [Expr.present] at hw
    rw [Expr.optTidy] at ht
    obtain ⟨s, hs, hreads⟩ := Expr.render_reads e hw ht d
    refine ⟨s, by rw [exprText, hs], ?_⟩
    rw [Expr.optPhraseOnto, hreads, Tail.chars, List.append_nil]

theorem Arg.itemTexts_read : ∀ args : List Arg, Arg.allWellFormed args = true →
    Arg.allTidy args = true → ∀ d : Int,
    ∃ parts, (itemTexts (argItems args) d).result = .ok parts ∧ ReadAs parts (Arg.entries args)
  | [], _, _, d => ⟨[], by rw [argItems]; rfl, by rw [Arg.entries]; exact .nil⟩
  | .mk cs value unpack :: rest, hw, ht, d => by
    simp only [Arg.allWellFormed, Arg.wellFormed, Bool.and_eq_true] at hw
    simp only [Arg.allTidy, Arg.isTidy, Bool.and_eq_true] at ht
    obtain ⟨s, hs, hreads⟩ := Expr.exprText_reads value hw.1 ht.1.2 d
    obtain ⟨parts, hparts, hrest⟩ := Arg.itemTexts_read rest hw.2 ht.2 d
    have htext : (argText (.mk cs value unpack) d).result =
        .ok (if unpack then "..." ++ s else s) := by
      rw [argText, result_bind_ok hs]
      rfl
    refine ⟨(if unpack then "..." ++ s else s) :: parts, ?_, ?_⟩
    · rw [argItems, itemTexts, itemText, result_bind_ok htext, result_bind_ok hparts]
      rfl
    · rw [Arg.entries, Arg.entry]
      refine .cons ?_ hrest
      cases unpack with
      | true =>
        rw [if_pos rfl, if_pos rfl, ListEntry.chars, hreads]
        simp
      | false =>
        rw [if_neg nofun, if_neg nofun, ListEntry.chars, hreads]

theorem ArrayItem.itemTexts_read : ∀ items : List ArrayItem,
    ArrayItem.allWellFormed items = true → ArrayItem.allTidy items = true → ∀ d : Int,
    ∃ parts, (itemTexts (arrayItems items) d).result = .ok parts ∧
      ReadAs parts (ArrayItem.entries items)
  | [], _, _, d => ⟨[], by rw [arrayItems]; rfl, by rw [ArrayItem.entries]; exact .nil⟩
  | .mk cs none value :: rest, hw, ht, d => by
    simp only [ArrayItem.allWellFormed, ArrayItem.wellFormed, Bool.and_eq_true] at hw
    simp only [ArrayItem.allTidy, ArrayItem.isTidy, Bool.and_eq_true] at ht
    obtain ⟨s, hs, hreads⟩ := Expr.exprText_reads value hw.1.2 ht.1.2 d
    obtain ⟨parts, hparts, hrest⟩ := ArrayItem.itemTexts_read rest hw.2 ht.2 d
    have htext : (arrayItemText (.mk cs none value) d).result = .ok s := by
      rw [arrayItemText, result_bind_ok hs, keyText]
      exact congrArg Except.ok String.empty_append
    refine ⟨s :: parts, ?_, ?_⟩
    · rw [arrayItems, itemTexts, itemText, result_bind_ok htext, result_bind_ok hparts]
      rfl
    · rw [ArrayItem.entries, ArrayItem.entry]
      refine .cons ?_ hrest
      rw [ListEntry.chars, hreads]
  | .mk cs (some key) value :: rest, hw, ht, d => by
    simp only [ArrayItem.allWellFormed, ArrayItem.wellFormed, Expr.allowed, Bool.and_eq_true] at hw
    simp only [ArrayItem.allTidy, ArrayItem.isTidy, Expr.optTidy, Bool.and_eq_true] at ht
    obtain ⟨s, hs, hreads⟩ := Expr.exprText_reads value hw.1.2 ht.1.2 d
    obtain ⟨k, hk, hkey⟩ := Expr.render_reads key hw.1.1 ht.1.1.2 d
    obtain ⟨parts, hparts, hrest⟩ := ArrayItem.itemTexts_read rest hw.2 ht.2 d
    have htext : (arrayItemText (.mk cs (some key) value) d).result = .ok (k ++ " => " ++ s) := by
      rw [arrayItemText, result_bind_ok hs, keyText, result_bind_ok (result_bind_ok hk _)]
      rfl
    refine ⟨(k ++ " => " ++ s) :: parts, ?_, ?_⟩
    · rw [arrayItems, itemTexts, itemText, result_bind_ok htext, result_bind_ok hparts]
      rfl
    · rw [ArrayItem.entries, ArrayItem.entry]
      refine .cons ?_ hrest
      rw [ListEntry.chars, hkey, hreads, Tail.chars]
      simp

end

end PhpDecl
