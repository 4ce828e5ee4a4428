import PhpDecl.Proofs.Readings
import PhpDecl.Render.Node

/-!
# Expressions with the same text

Printing an expression loses how its assignments are grouped, and nothing else. Two tidy expressions
have the same text exactly if they are equal up to the congruence that lets a fetch, a call or an
assignment of an assignment move into its value.

* `IsCongruence`, `Regroups`, `Regrouped`: congruences, the three equations, and the congruence that
  they generate;
* `SamePhrase`, `isCongruence_samePhrase`, `regroups_samePhrase`: to have the same phrase is such a
  congruence;
* `Phrase.expr`, `Tail.applyTo`: the expression of a phrase, grouped to the right;
* `Expr.isSettled`: no assignment is the target of anything;
* `Regroups.applyTo_assign`, **`IsCongruence.rebuild`**: an expression is related to that of its
  phrase, and equal to it if it is settled;
* **`nodeText_expr_eq_iff`**: expressions with the same text.
-/

namespace PhpDecl

open Traced

/-! ## Congruences -/

/-- Arguments that differ in related values. -/
inductive Arg.Related (R : Expr → Expr → Prop) : Arg → Arg → Prop
  | mk (cs : List Comment) {v w : Option Expr} (unpack : Bool) (h : Option.Rel R v w) :
    Arg.Related R (.mk cs v unpack) (.mk cs w unpack)

/-- Array elements that differ in related keys and related values. -/
inductive ArrayItem.Related (R : Expr → Expr → Prop) : ArrayItem → ArrayItem → Prop
  | mk (cs : List Comment) {k l v w : Option Expr} (hkey : Option.Rel R k l)
    (hvalue : Option.Rel R v w) : ArrayItem.Related R (.mk cs k v) (.mk cs l w)

/-- An equivalence of expressions that every way to compose expressions respects. -/
structure IsCongruence (R : Expr → Expr → Prop) : Prop extends Equivalence R where
  call {cs : List Comment} {name : String} {args args' : List Arg} :
    List.Forall₂ (Arg.Related R) args args' → R (.call cs name args) (.call cs name args')
  methodCall {cs : List Comment} {name : String} {v w : Option Expr} {args args' : List Arg} :
    Option.Rel R v w → List.Forall₂ (Arg.Related R) args args' →
      R (.methodCall cs v name args) (.methodCall cs w name args')
  fetch {cs : List Comment} {name : String} {v w : Option Expr} :
    Option.Rel R v w → R (.fetch cs v name) (.fetch cs w name)
  assign {cs : List Comment} {v w x y : Option Expr} :
    Option.Rel R v w → Option.Rel R x y → R (.assign cs v x) (.assign cs w y)
  array {cs : List Comment} {items items' : List ArrayItem} :
    List.Forall₂ (ArrayItem.Related R) items items' → R (.array cs items) (.array cs items')

/-- What is done with an assignment can be done with its value. -/
structure Regroups (R : Expr → Expr → Prop) : Prop where
  fetch (a b : Option Expr) (name : String) :
    R (.fetch [] (some (.assign [] a b)) name) (.assign [] a (some (.fetch [] b name)))
  methodCall (a b : Option Expr) (name : String) (args : List Arg) :
    R (.methodCall [] (some (.assign [] a b)) name args)
      (.assign [] a (some (.methodCall [] b name args)))
  assign (a b c : Option Expr) :
    R (.assign [] (some (.assign [] a b)) c) (.assign [] a (some (.assign [] b c)))

/-- The expressions are equal up to the grouping of assignments: they are related by the congruence
that the three equations generate. -/
def Regrouped (e f : Expr) : Prop := ∀ R : Expr → Expr → Prop, IsCongruence R → Regroups R → R e f

/-! ## Expressions with the same phrases -/

/-- The expressions have the same phrase whatever follows them. -/
def SamePhrase (e f : Expr) : Prop := ∀ t : Tail, e.phraseOnto t = f.phraseOnto t

namespace SamePhrase

theorem opt {v w : Option Expr} (h : Option.Rel SamePhrase v w) (t : Tail) :
    Expr.optPhraseOnto v t = Expr.optPhraseOnto w t := by
  cases h with
  | none => rfl
  | some h =>
    rw [Expr.optPhraseOnto, Expr.optPhraseOnto]
    exact h t

theorem args {args args' : List Arg} (h : List.Forall₂ (Arg.Related SamePhrase) args args') :
    Arg.entries args = Arg.entries args' := by
  induction h with
  | nil => rfl
  | cons ha _ ih =>
    obtain ⟨cs, unpack, hv⟩ := ha
    rw [Arg.entries, Arg.entries, ih, Arg.entry, Arg.entry, opt hv]

theorem items {items items' : List ArrayItem}
    (h : List.Forall₂ (ArrayItem.Related SamePhrase) items items') :
    ArrayItem.entries items = ArrayItem.entries items' := by
  induction h with
  | nil => rfl
  | cons hi _ ih =>
    obtain ⟨cs, hk, hv⟩ := hi
    rw [ArrayItem.entries, ArrayItem.entries, ih]
    cases hk with
    | none => rw [ArrayItem.entry, ArrayItem.entry, opt hv]
    | some hk => rw [ArrayItem.entry, ArrayItem.entry, opt hv, hk .done]

end SamePhrase

theorem isCongruence_samePhrase : IsCongruence SamePhrase where
  refl := fun _ _ => rfl
  symm := fun h t => (h t).symm
  trans := fun h h' t => (h t).trans (h' t)
  call := fun hargs t => by rw [Expr.phraseOnto, Expr.phraseOnto, SamePhrase.args hargs]
  methodCall := fun hv hargs t => by
    rw [Expr.phraseOnto, Expr.phraseOnto, SamePhrase.args hargs, SamePhrase.opt hv]
  fetch := fun hv t => by rw [Expr.phraseOnto, Expr.phraseOnto, SamePhrase.opt hv]
  assign := fun hv hx t => by
    rw [Expr.phraseOnto, Expr.phraseOnto, SamePhrase.opt hx, SamePhrase.opt hv]
  array := fun hitems t => by rw [Expr.phraseOnto, Expr.phraseOnto, SamePhrase.items hitems]

theorem regroups_samePhrase : Regroups SamePhrase where
  fetch := fun a b name t => by simp only [Expr.phraseOnto, Expr.optPhraseOnto]
  methodCall := fun a b name args t => by simp only [Expr.phraseOnto, Expr.optPhraseOnto]
  assign := fun a b c t => by simp only [Expr.phraseOnto, Expr.optPhraseOnto]

/-! ## The expression of a phrase -/

mutual

/-- The expression of a phrase: assignments are grouped to the right. -/
def Phrase.expr : Phrase → Expr
  | .mk head tail => tail.applyTo head.expr

/-- The expression of an atom. -/
def Atom.expr : Atom → Expr
  | .var name => .variable [] name.text
  | .string value => .string [] value
  | .integer value => .integer [] value
  | .constant name => .constant [] name.text
  | .call name args => .call [] name.text (ListEntry.args args)
  | .array items => .array [] (ListEntry.items items)

/-- An expression followed by a tail. -/
def Tail.applyTo : Tail → Expr → Expr
  | .done, e => e
  | .fetch name t, e => t.applyTo (.fetch [] (some e) name.text)
  | .method name args t, e => t.applyTo (.methodCall [] (some e) name.text (ListEntry.args args))
  | .assign p, e => .assign [] (some e) (some p.expr)

/-- An entry as an argument. -/
def ListEntry.arg : ListEntry → Arg
  | .plain p => .mk [] (some p.expr) false
  | .unpacked p => .mk [] (some p.expr) true
  | .keyed _ v => .mk [] (some v.expr) false

/-- Entries as arguments. -/
def ListEntry.args : List ListEntry → List Arg
  | [] => []
  | e :: rest => e.arg :: ListEntry.args rest

/-- An entry as an array element. -/
def ListEntry.item : ListEntry → ArrayItem
  | .plain p => .mk [] none (some p.expr)
  | .unpacked p => .mk [] none (some p.expr)
  | .keyed k v => .mk [] (some k.expr) (some v.expr)

/-- Entries as array elements. -/
def ListEntry.items : List ListEntry → List ArrayItem
  | [] => []
  | e :: rest => e.item :: ListEntry.items rest

end

/-- The expression is an assignment. -/
def Expr.isAssign : Expr → Bool
  | .assign _ _ _ => true
  | _ => false

mutual

/-- No assignment in the expression is the target of a fetch, a call or an assignment. -/
def Expr.isSettled : Expr → Bool
  | .variable _ _ | .string _ _ | .integer _ _ | .constant _ _ | .foreign _ _ => true
  | .call _ _ args => Arg.allSettled args
  | .methodCall _ target _ args => Expr.settledTarget target && Arg.allSettled args
  | .fetch _ target _ => Expr.settledTarget target
  | .assign _ target value => Expr.settledTarget target && Expr.optSettled value
  | .array _ items => ArrayItem.allSettled items

/-- The target is no assignment, and settled. -/
def Expr.settledTarget : Option Expr → Bool
  | none => true
  | some e => !e.isAssign && e.isSettled

/-- The expression is missing or settled. -/
def Expr.optSettled : Option Expr → Bool
  | none => true
  | some e => e.isSettled

/-- All arguments have settled values. -/
def Arg.allSettled : List Arg → Bool
  | [] => true
  | .mk _ value _ :: rest => Expr.optSettled value && Arg.allSettled rest

/-- All array elements have settled keys and values. -/
def ArrayItem.allSettled : List ArrayItem → Bool
  | [] => true
  | .mk _ key value :: rest =>
    Expr.optSettled key && Expr.optSettled value && ArrayItem.allSettled rest

end

/-- A settled target is no assignment, so it may have any tail. -/
theorem Expr.isSettled_of_target {v : Expr} (h : Expr.settledTarget (some v) = true) (t : Tail) :
    v.isSettled = true ∧ (v.isAssign = true → t = .done) := by
  rw [Expr.settledTarget, Bool.and_eq_true, Bool.not_eq_true'] at h
  refine ⟨h.2, fun hassign => ?_⟩
  rw [h.1] at hassign
  cases hassign

section Rebuild

variable {R : Expr → Expr → Prop}

theorem IsCongruence.refl_opt (hR : IsCongruence R) (v : Option Expr) : Option.Rel R v v := by
  cases v with
  | none => exact .none
  | some e => exact .some (hR.refl e)

theorem IsCongruence.refl_args (hR : IsCongruence R) (args : List Arg) :
    List.Forall₂ (Arg.Related R) args args := by
  induction args with
  | nil => exact .nil
  | cons a args ih =>
    obtain ⟨cs, v, unpack⟩ := a
    exact .cons (.mk cs unpack (hR.refl_opt v)) ih

/-- Related expressions are related with a tail. -/
theorem IsCongruence.applyTo (hR : IsCongruence R) : ∀ (t : Tail) {e f : Expr}, R e f →
    R (t.applyTo e) (t.applyTo f)
  | .done, e, f, h => by
    rw [Tail.applyTo, Tail.applyTo]
    exact h
  | .fetch name t, e, f, h => by
    rw [Tail.applyTo, Tail.applyTo]
    exact hR.applyTo t (hR.fetch (.some h))
  | .method name args t, e, f, h => by
    rw [Tail.applyTo, Tail.applyTo]
    exact hR.applyTo t (hR.methodCall (.some h) (hR.refl_args _))
  | .assign p, e, f, h => by
    rw [Tail.applyTo, Tail.applyTo]
    exact hR.assign (.some h) (hR.refl_opt _)

/-- A tail after an assignment moves into its value, one step after the other. -/
theorem Regroups.applyTo_assign (hg : Regroups R) (hR : IsCongruence R) (a : Option Expr) :
    ∀ (t : Tail) (b : Expr),
      R (t.applyTo (.assign [] a (some b))) (.assign [] a (some (t.applyTo b)))
  | .done, b => by
    rw [Tail.applyTo, Tail.applyTo]
    exact hR.refl _
  | .fetch name t, b => by
    rw [Tail.applyTo, Tail.applyTo]
    have hstep := hR.applyTo t (hg.fetch a (some b) name.text)
    exact hR.trans hstep (hg.applyTo_assign hR a t _)
  | .method name args t, b => by
    rw [Tail.applyTo, Tail.applyTo]
    have hstep := hR.applyTo t (hg.methodCall a (some b) name.text (ListEntry.args args))
    exact hR.trans hstep (hg.applyTo_assign hR a t _)
  | .assign p, b => by
    rw [Tail.applyTo, Tail.applyTo]
    exact hg.assign a (some b) (some p.expr)

mutual

/-- **An expression and the expression of its phrase** are related by a congruence that regroups
assignments. If nothing has to be regrouped, they are related by any congruence. -/
theorem IsCongruence.rebuild (hR : IsCongruence R) : ∀ (e : Expr) (t : Tail),
    e.wellFormed = true → e.isTidy = true →
    (Regroups R ∨ e.isSettled = true ∧ (e.isAssign = true → t = .done)) →
    R (t.applyTo e) (e.phraseOnto t).expr
  | .variable cs name, t, _, ht, _ => by
    simp only [Expr.isTidy, Bool.and_eq_true, List.isEmpty_iff] at ht
    rw [Expr.phraseOnto, Phrase.expr, Atom.expr, Identifier.text_ofText ht.2, ht.1]
    exact hR.refl _
  | .string cs value, t, _, ht, _ => by
    simp only [Expr.isTidy, List.isEmpty_iff] at ht
    rw [Expr.phraseOnto, Phrase.expr, Atom.expr, ht]
    exact hR.refl _
  | .integer cs value, t, _, ht, _ => by
    simp only [Expr.isTidy, List.isEmpty_iff] at ht
    rw [Expr.phraseOnto, Phrase.expr, Atom.expr, ht]
    exact hR.refl _
  | .constant cs name, t, _, ht, _ => by
    simp only [Expr.isTidy, Bool.and_eq_true, List.isEmpty_iff] at ht
    rw [Expr.phraseOnto, Phrase.expr, Atom.expr, Identifier.text_ofText ht.2, ht.1]
    exact hR.refl _
  | .call cs name args, t, hw, ht, hs => by
    rw [Expr.wellFormed] at hw
    simp only [Expr.isTidy, Bool.and_eq_true, List.isEmpty_iff] at ht
    obtain ⟨⟨rfl, hname⟩, hargs⟩ := ht
    rw [Expr.isSettled] at hs
    rw [Expr.phraseOnto, Phrase.expr, Atom.expr, Identifier.text_ofText hname]
    exact hR.applyTo t (hR.call (hR.rebuild_args args hw hargs (hs.imp_right And.left)))
  | .methodCall _ none _ _, _, hw, _, _ => by
    rw [Expr.wellFormed, Expr.present, Bool.false_and] at hw
    cases hw
  | .methodCall cs (some v) name args, t, hw, ht, hs => by
    simp only [Expr.wellFormed, Expr.present, Bool.and_eq_true] at hw
    simp only [Expr.isTidy, Expr.optTidy, Bool.and_eq_true, List.isEmpty_iff] at ht
    obtain ⟨⟨⟨rfl, hv⟩, hname⟩, hargs⟩ := ht
    simp only [Expr.isSettled, Bool.and_eq_true] at hs
    have hlist := hR.rebuild_args args hw.2 hargs (hs.imp_right fun h => h.1.2)
    have htarget := hR.rebuild v (.method (.ofText name) (Arg.entries args) t) hw.1 hv
      (hs.imp_right fun h => Expr.isSettled_of_target h.1.1 _)
    rw [Tail.applyTo, Identifier.text_ofText hname] at htarget
    rw [Expr.phraseOnto, Expr.optPhraseOnto]
    exact hR.trans (hR.applyTo t (hR.methodCall (hR.refl_opt _) hlist)) htarget
  | .fetch _ none _, _, hw, _, _ => by
    rw [Expr.wellFormed, Expr.present] at hw
    cases hw
  | .fetch cs (some v) name, t, hw, ht, hs => by
    rw [Expr.wellFormed, Expr.present] at hw
    simp only [Expr.isTidy, Expr.optTidy, Bool.and_eq_true, List.isEmpty_iff] at ht
    obtain ⟨⟨rfl, hv⟩, hname⟩ := ht
    rw [Expr.isSettled] at hs
    have htarget := hR.rebuild v (.fetch (.ofText name) t) hw hv
      (hs.imp_right fun h => Expr.isSettled_of_target h.1 _)
    rw [Tail.applyTo, Identifier.text_ofText hname] at htarget
    rw [Expr.phraseOnto, Expr.optPhraseOnto]
    exact htarget
  | .assign _ none _, _, hw, _, _ => by
    rw [Expr.wellFormed, Expr.present, Bool.false_and] at hw
    cases hw
  | .assign _ (some _) none, _, hw, _, _ => by
    simp only [Expr.wellFormed, Expr.present, Bool.and_false] at hw
    cases hw
  | .assign cs (some v) (some x), t, hw, ht, hs => by
    simp only [Expr.wellFormed, Expr.present, Bool.and_eq_true] at hw
    simp only [Expr.isTidy, Expr.optTidy, Bool.and_eq_true, List.isEmpty_iff] at ht
    obtain ⟨⟨rfl, hv⟩, hx⟩ := ht
    simp only [Expr.isSettled, Expr.optSettled, Bool.and_eq_true] at hs
    -- the tail moves into the value, or there is none
    have hmove : R (t.applyTo (.assign [] (some v) (some x)))
        (.assign [] (some v) (some (t.applyTo x))) := by
      rcases hs with hg | ⟨_, hdone⟩
      · exact hg.applyTo_assign hR (some v) t x
      · rw [hdone rfl, Tail.applyTo, Tail.applyTo]
        exact hR.refl _
    have hvalue := hR.rebuild x t hw.2 hx (hs.imp_right fun h => ⟨h.1.2, fun _ => h.2 rfl⟩)
    have htarget := hR.rebuild v (.assign (x.phraseOnto t)) hw.1 hv
      (hs.imp_right fun h => Expr.isSettled_of_target h.1.1 _)
    rw [Tail.applyTo] at htarget
    rw [Expr.phraseOnto, Expr.optPhraseOnto, Expr.optPhraseOnto]
    exact hR.trans hmove (hR.trans (hR.assign (hR.refl_opt _) (.some hvalue)) htarget)
  | .array cs items, t, hw, ht, hs => by
    rw [Expr.wellFormed] at hw
    simp only [Expr.isTidy, Bool.and_eq_true, List.isEmpty_iff] at ht
    obtain ⟨rfl, hitems⟩ := ht
    rw [Expr.isSettled] at hs
    rw [Expr.phraseOnto, Phrase.expr, Atom.expr]
    exact hR.applyTo t (hR.array (hR.rebuild_items items hw hitems (hs.imp_right And.left)))
  | .foreign _ _, _, hw, _, _ => by
    rw [Expr.wellFormed] at hw
    cases hw

/-- A value by itself. -/
theorem IsCongruence.rebuild_value (hR : IsCongruence R) : ∀ v : Option Expr,
    Expr.present v = true → Expr.optTidy v = true →
    (Regroups R ∨ Expr.optSettled v = true) →
    Option.Rel R v (some (Expr.optPhraseOnto v .done).expr)
  | none, hw, _, _ => by
    rw [Expr.present] at hw
    cases hw
  | some e, hw, ht, hs => by
    rw [Expr.present] at hw
    rw [Expr.optTidy] at ht
    rw [Expr.optSettled] at hs
    have he := hR.rebuild e .done hw ht (hs.imp_right fun h => ⟨h, fun _ => rfl⟩)
    rw [Tail.applyTo] at he
    rw [Expr.optPhraseOnto]
    exact .some he

theorem IsCongruence.rebuild_args (hR : IsCongruence R) : ∀ args : List Arg,
    Arg.allWellFormed args = true → Arg.allTidy args = true →
    (Regroups R ∨ Arg.allSettled args = true) →
    List.Forall₂ (Arg.Related R) args (ListEntry.args (Arg.entries args))
  | [], _, _, _ => by
    rw [Arg.entries, ListEntry.args]
    exact .nil
  | .mk cs v unpack :: rest, hw, ht, hs => by
    simp only [Arg.allWellFormed, Arg.wellFormed, Bool.and_eq_true] at hw
    simp only [Arg.allTidy, Arg.isTidy, Bool.and_eq_true, List.isEmpty_iff] at ht
    obtain ⟨⟨rfl, hv⟩, hrest⟩ := ht
    simp only [Arg.allSettled, Bool.and_eq_true] at hs
    have hvalue := hR.rebuild_value v hw.1 hv (hs.imp_right And.left)
    have hargs := hR.rebuild_args rest hw.2 hrest (hs.imp_right And.right)
    rw [Arg.entries, ListEntry.args, Arg.entry]
    refine .cons ?_ hargs
    cases unpack with
    | true =>
      rw [if_pos rfl, ListEntry.arg]
      exact .mk [] true hvalue
    | false =>
      rw [if_neg nofun, ListEntry.arg]
      exact .mk [] false hvalue

theorem IsCongruence.rebuild_items (hR : IsCongruence R) : ∀ items : List ArrayItem,
    ArrayItem.allWellFormed items = true → ArrayItem.allTidy items = true →
    (Regroups R ∨ ArrayItem.allSettled items = true) →
    List.Forall₂ (ArrayItem.Related R) items (ListEntry.items (ArrayItem.entries items))
  | [], _, _, _ => by
    rw [ArrayItem.entries, ListEntry.items]
    exact .nil
  | .mk cs none v :: rest, hw, ht, hs => by
    simp only [ArrayItem.allWellFormed, ArrayItem.wellFormed, Bool.and_eq_true] at hw
    simp only [ArrayItem.allTidy, ArrayItem.isTidy, Bool.and_eq_true, List.isEmpty_iff] at ht
    obtain ⟨⟨⟨rfl, _⟩, hv⟩, hrest⟩ := ht
    simp only [ArrayItem.allSettled, Bool.and_eq_true] at hs
    have hvalue := hR.rebuild_value v hw.1.2 hv (hs.imp_right fun h => h.1.2)
    have hitems := hR.rebuild_items rest hw.2 hrest (hs.imp_right And.right)
    rw [ArrayItem.entries, ListEntry.items, ArrayItem.entry, ListEntry.item]
    exact .cons (.mk [] .none hvalue) hitems
  | .mk cs (some k) v :: rest, hw, ht, hs => by
    simp only [ArrayItem.allWellFormed, ArrayItem.wellFormed, Expr.allowed, Bool.and_eq_true] at hw
    simp only [ArrayItem.allTidy, ArrayItem.isTidy, Expr.optTidy, Bool.and_eq_true,
      List.isEmpty_iff] at ht
    obtain ⟨⟨⟨rfl, hk⟩, hv⟩, hrest⟩ := ht
    simp only [ArrayItem.allSettled, Expr.optSettled, Bool.and_eq_true] at hs
    have hkey := hR.rebuild k .done hw.1.1 hk (hs.imp_right fun h => ⟨h.1.1, fun _ => rfl⟩)
    have hvalue := hR.rebuild_value v hw.1.2 hv (hs.imp_right fun h => h.1.2)
    have hitems := hR.rebuild_items rest hw.2 hrest (hs.imp_right And.right)
    rw [Tail.applyTo] at hkey
    rw [ArrayItem.entries, ListEntry.items, ArrayItem.entry, ListEntry.item]
    exact .cons (.mk [] (.some hkey) hvalue) hitems

end

end Rebuild

/-! ## Texts -/

/-- Equality is a congruence. -/
theorem isCongruence_eq : IsCongruence Eq := by
  have hopt : ∀ {v w : Option Expr}, Option.Rel Eq v w → v = w := by
    rintro v w (h | _)
    · rw [h]
    · rfl
  have hargs : ∀ {args args' : List Arg}, List.Forall₂ (Arg.Related Eq) args args' →
      args = args' := by
    intro args args' h
    induction h with
    | nil => rfl
    | cons ha _ ih =>
      obtain ⟨cs, unpack, hv⟩ := ha
      rw [hopt hv, ih]
  have hitems : ∀ {items items' : List ArrayItem},
      List.Forall₂ (ArrayItem.Related Eq) items items' → items = items' := by
    intro items items' h
    induction h with
    | nil => rfl
    | cons hi _ ih =>
      obtain ⟨cs, hk, hv⟩ := hi
      rw [hopt hk, hopt hv, ih]
  refine ⟨⟨fun _ => rfl, Eq.symm, Eq.trans⟩, ?_, ?_, ?_, ?_, ?_⟩
  · intro _ _ _ _ h
    rw [hargs h]
  · intro _ _ _ _ _ _ hv h
    rw [hopt hv, hargs h]
  · intro _ _ _ _ hv
    rw [hopt hv]
  · intro _ _ _ _ _ hv hx
    rw [hopt hv, hopt hx]
  · intro _ _ _ h
    rw [hitems h]

/-- A congruence relates expressions with the same phrase, if it regroups assignments or they are
settled. -/
theorem IsCongruence.of_phraseOnto_eq {R : Expr → Expr → Prop} (hR : IsCongruence R) {e f : Expr}
    (he : e.wellFormed = true) (he' : e.isTidy = true) (hf : f.wellFormed = true)
    (hf' : f.isTidy = true) (h : e.phraseOnto .done = f.phraseOnto .done)
    (hs : Regroups R ∨ e.isSettled = true ∧ f.isSettled = true) : R e f := by
  have hleft := hR.rebuild e .done he he' (hs.imp_right fun h => ⟨h.1, fun _ => rfl⟩)
  have hright := hR.rebuild f .done hf hf' (hs.imp_right fun h => ⟨h.2, fun _ => rfl⟩)
  rw [Tail.applyTo] at hleft hright
  rw [h] at hleft
  exact hR.trans hleft (hR.symm hright)

/-- **Expressions with the same text are those that are equal up to the grouping of assignments.**
Well-formed expressions without comments, whose names are identifiers, have texts in all styles and
at all depths. Two of them have the same text exactly if the three equations make them equal; if no
assignment is the target of anything, they are equal. -/
theorem nodeText_expr_eq_iff {e f : Expr} (he : e.wellFormed = true) (he' : e.isTidy = true)
    (hf : f.wellFormed = true) (hf' : f.isTidy = true) (style style' : Style) (d d' : Int) :
    ∃ s t, (nodeText style (some (.expr e)) d).result = .ok s ∧
      (nodeText style' (some (.expr f)) d').result = .ok t ∧
      (s = t ↔ Regrouped e f) ∧
      (e.isSettled = true → f.isSettled = true → (s = t ↔ e = f)) := by
  obtain ⟨s, hs, hreads⟩ := e.render_reads he he' d
  obtain ⟨t, ht, hreads'⟩ := f.render_reads hf hf' d'
  have hphrase : s = t ↔ e.phraseOnto .done = f.phraseOnto .done := by
    have hchars : (e.phraseOnto .done).chars = s.toList := by
      rw [hreads, Tail.chars, List.append_nil]
    have hchars' : (f.phraseOnto .done).chars = t.toList := by
      rw [hreads', Tail.chars, List.append_nil]
    constructor
    · rintro rfl
      have hstops : stops [] = true := rfl
      refine (Phrase.read_unique _ _ hstops hstops ?_).1
      rw [hchars, hchars']
    · intro h
      apply String.toList_inj.mp
      rw [← hchars, ← hchars', h]
  refine ⟨s, t, hs, ht, ?_, fun hse hsf => ?_⟩
  · constructor
    · intro heq R hR hg
      exact hR.of_phraseOnto_eq he he' hf hf' (hphrase.mp heq) (.inl hg)
    · intro h
      exact hphrase.mpr (h SamePhrase isCongruence_samePhrase regroups_samePhrase .done)
  · constructor
    · intro heq
      exact isCongruence_eq.of_phraseOnto_eq he he' hf hf' (hphrase.mp heq) (.inr ⟨hse, hsf⟩)
    · rintro rfl
      exact hphrase.mpr rfl

/-- A property of the value of an assignment has the text of the property of the assignment. -/
theorem nodeText_expr_eq_iff_fetch_assign :
    ∃ s, (nodeText .standard (some (.expr (.fetch [] (some (.assign [] (some (.variable [] "a"))
        (some (.variable [] "b")))) "n"))) 0).result = .ok s ∧
      (nodeText (.extended .standard) (some (.expr (.assign [] (some (.variable [] "a"))
        (some (.fetch [] (some (.variable [] "b")) "n"))))) 3).result = .ok s := by
  obtain ⟨s, t, hs, ht, heq, -⟩ := nodeText_expr_eq_iff
    (e := .fetch [] (some (.assign [] (some (.variable [] "a")) (some (.variable [] "b")))) "n")
    (f := .assign [] (some (.variable [] "a")) (some (.fetch [] (some (.variable [] "b")) "n")))
    (by decide) (by decide) (by decide) (by decide) .standard (.extended .standard) 0 3
  have hregrouped := heq.mpr fun R _ hg =>
    hg.fetch (some (.variable [] "a")) (some (.variable [] "b")) "n"
  exact ⟨s, hs, hregrouped ▸ ht⟩

end PhpDecl
