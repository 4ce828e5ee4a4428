import Mathlib.Tactic.Common
import PhpDecl.Proofs.Callable
import PhpDecl.Render.Node

/-!
# Comments and string literals in reading order

The marks of a tree are the comments that are printed, each at the depth where it stands, and the
string literals, in the order in which they are read.

* `Mark`, `Mark.text`: a comment at a depth, or a literal;
* `OccurInOrder`: marks that occur in a text one after the other, without overlap;
* **`OccurInOrder.append`**, **`OccurInOrder.dropMargin`**: they still do in a concatenation, and
  without the left margin;
* `Expr.marks`, `Param.marks`, `Stmt.marks`, `Stmt.listMarks` and their companions: the marks of a
  tree in a style at a depth.
-/

namespace PhpDecl

/-! ## Marks of a text -/

/-- A comment at a depth, or a string literal. -/
inductive Mark where
  | comment (c : Comment) (depth : Nat)
  | literal (value : String)

/-- The text of a mark: a realigned comment with its lines indented, or a quoted value. -/
def Mark.text : Mark → String
  | .comment c depth => c.textAt depth
  | .literal value => Text.literal value

/-- The marks occur in the text one after the other, without overlap. -/
def OccurInOrder : List Mark → String → Prop
  | [], _ => True
  | m :: ms, text => ∃ before after, text = before ++ m.text ++ after ∧ OccurInOrder ms after

namespace OccurInOrder

variable {ms ns : List Mark} {s t : String}

theorem nil (text : String) : OccurInOrder [] text := trivial

theorem single (m : Mark) : OccurInOrder [m] m.text :=
  ⟨"", "", by rw [String.empty_append, String.append_empty], trivial⟩

/-- More text in front does not matter. -/
theorem after (s : String) (h : OccurInOrder ms t) : OccurInOrder ms (s ++ t) := by
  cases ms with
  | nil => trivial
  | cons m ms =>
    obtain ⟨before, rest, rfl, h⟩ := h
    exact ⟨s ++ before, rest, by simp only [String.append_assoc], h⟩

/-- **Marks of two texts occur in their concatenation.** -/
theorem append (hs : OccurInOrder ms s) (ht : OccurInOrder ns t) :
    OccurInOrder (ms ++ ns) (s ++ t) := by
  induction ms generalizing s with
  | nil => exact ht.after s
  | cons m ms ih =>
    obtain ⟨before, rest, rfl, hs⟩ := hs
    exact ⟨before, rest ++ t, by simp only [String.append_assoc], ih hs⟩

/-- More text behind does not matter. -/
theorem before (h : OccurInOrder ms s) (t : String) : OccurInOrder ms (s ++ t) := by
  have := h.append (nil t)
  rwa [List.append_nil] at this

theorem intercalate_cons {sep : String} {rest : List String} (hs : OccurInOrder ms s)
    (ht : OccurInOrder ns (sep.intercalate rest)) :
    OccurInOrder (ms ++ ns) (sep.intercalate (s :: rest)) := by
  cases rest with
  | nil =>
    rw [String.intercalate_nil] at ht
    rw [String.intercalate_singleton, ← String.append_empty (s := s)]
    exact hs.append ht
  | cons t rest =>
    rw [String.intercalate_cons_cons]
    exact (hs.before sep).append ht

end OccurInOrder

/-! ## The left margin -/

theorem isBlank_of_isMargin {c : Char} (h : isMargin c = true) : Text.isBlank c = true := by
  simp only [isMargin, Bool.or_eq_true, decide_eq_true_eq] at h
  rcases h with ((rfl | rfl) | rfl) | rfl <;> decide

theorem Text.head_trimChars {cs rest : List Char} {a : Char} (h : Text.trimChars cs = a :: rest) :
    Text.isBlank a = false := by
  have hp : Text.trimChars cs <+: Text.trimStart cs := by
    rw [← List.reverse_suffix]
    unfold Text.trimChars Text.trimEnd
    rw [List.reverse_reverse]
    exact List.dropWhile_suffix _
  rw [h] at hp
  obtain ⟨tail, ht⟩ := hp
  have hd := List.head?_dropWhile_not Text.isBlank cs
  unfold Text.trimStart at ht
  rw [← ht] at hd
  exact hd

theorem exists_intercalate_cons (sep s : String) (rest : List String) :
    ∃ tail, sep.intercalate (s :: rest) = s ++ tail := by
  cases rest with
  | nil => exact ⟨"", by rw [String.intercalate_singleton, String.append_empty]⟩
  | cons t rest =>
    exact ⟨sep ++ sep.intercalate (t :: rest), by
      rw [String.intercalate_cons_cons, String.append_assoc]⟩

/-- The text of a comment starts with what is left of it. -/
theorem Comment.exists_textAt_cons {c : Comment} {a : Char} {cs : List Char}
    (h : Text.trimChars c.text.toList = a :: cs) (depth : Nat) :
    ∃ rest, (c.textAt depth).toList = a :: rest := by
  have hn : (a == '\n') = false := by
    rw [beq_eq_false_iff_ne]
    rintro rfl
    exact absurd (Text.head_trimChars h) (by decide)
  obtain ⟨first, lines, hs⟩ := List.exists_cons_of_ne_nil (List.splitOn_ne_nil '\n' cs)
  obtain ⟨tail, hi⟩ := exists_intercalate_cons (lineBreak depth) (String.ofList (a :: first))
    ((lines.map Comment.realign).map String.ofList)
  refine ⟨first ++ tail.toList, ?_⟩
  rw [Comment.textAt, Comment.lines, h, List.splitOn_cons_eq_if_modifyHead, hn, hs]
  simp only [Bool.false_eq_true, if_false, List.modifyHead_cons, Comment.realignTail,
    List.map_cons, hi, String.toList_append, String.toList_ofList, List.cons_append]

/-- The first line of a comment does not start with white space. -/
theorem Comment.isBlank_head_textAt (c : Comment) (depth : Nat) {a : Char} {cs : List Char}
    (h : (c.textAt depth).toList = a :: cs) : Text.isBlank a = false := by
  cases ht : Text.trimChars c.text.toList with
  | nil =>
    rw [Comment.textAt, Comment.lines, ht, List.splitOn_nil] at h
    simp [Comment.realignTail] at h
  | cons b rest =>
    obtain ⟨tail, hc⟩ := Comment.exists_textAt_cons ht depth
    obtain ⟨rfl, -⟩ := List.cons.inj (h.symm.trans hc)
    exact Text.head_trimChars ht

theorem Comment.head_textAt (c : Comment) (depth : Nat) {a : Char} {cs : List Char}
    (h : (c.textAt depth).toList = a :: cs) : isMargin a = false := by
  have hb := c.isBlank_head_textAt depth h
  rw [Bool.eq_false_iff]
  intro hm
  rw [isBlank_of_isMargin hm] at hb
  cases hb

/-- A mark does not start with white space that a left margin can have. -/
theorem Mark.head_text {m : Mark} {a : Char} {cs : List Char} (h : m.text.toList = a :: cs) :
    isMargin a = false := by
  cases m with
  | comment c depth => exact c.head_textAt depth h
  | literal value =>
    rw [Mark.text, Text.literal, String.toList_ofList, List.cons_append, List.cons.injEq] at h
    rw [← h.1]
    decide

theorem dropWhile_append_cons {p : Char → Bool} {a : Char} (ha : p a = false)
    (xs ys : List Char) : (xs ++ a :: ys).dropWhile p = xs.dropWhile p ++ a :: ys := by
  induction xs with
  | nil => rw [List.nil_append, List.dropWhile_cons, ha]; rfl
  | cons x xs ih =>
    rw [List.cons_append, List.dropWhile_cons, List.dropWhile_cons]
    split_ifs
    · exact ih
    · rfl

/-- **Marks survive the dropping of a left margin.** -/
theorem OccurInOrder.dropMargin {ms : List Mark} {t : String} (h : OccurInOrder ms t) :
    OccurInOrder ms (String.ofList (t.toList.dropWhile isMargin)) := by
  induction ms with
  | nil => trivial
  | cons m ms ih =>
    obtain ⟨before, rest, rfl, h⟩ := h
    cases hm : m.text.toList with
    | nil =>
      refine ⟨"", _, ?_, ih (h.after _)⟩
      rw [String.toList_eq_nil_iff.mp hm, String.empty_append, String.empty_append]
    | cons a cs =>
      refine ⟨String.ofList (before.toList.dropWhile isMargin), rest, ?_, h⟩
      have ha : isMargin a = false := Mark.head_text hm
      apply String.ext
      simp only [String.toList_append, String.toList_ofList, hm, List.append_assoc,
        List.cons_append, dropWhile_append_cons ha]

/-! ## Marks of expressions -/

/-- Comments at a depth as marks. -/
def commentMarks (comments : List Comment) (depth : Nat) : List Mark :=
  comments.map fun c => .comment c depth

/-- The depth of the items of a list in a layout. -/
def Layout.inside : Layout → Nat → Nat
  | .singleLine, depth => depth
  | .multiLine, depth => depth + 1

/-- The depth of the items of a list that is split as soon as one of them has a comment. -/
def listDepth (items : List (Option Item)) (depth : Nat) : Nat :=
  if hasComments items then depth + 1 else depth

mutual

/-- The marks of an expression. -/
def Expr.marks : Expr → Nat → List Mark
  | .variable _ _, _ => []
  | .string _ value, _ => [.literal value]
  | .integer _ _, _ => []
  | .constant _ _, _ => []
  | .call _ _ args, depth => Arg.listMarks args (listDepth (argItems args) depth)
  | .methodCall _ target _ args, depth =>
    Expr.optMarks target depth ++ Arg.listMarks args (listDepth (argItems args) depth)
  | .fetch _ target _, depth => Expr.optMarks target depth
  | .assign _ target value, depth => Expr.optMarks target depth ++ Expr.optMarks value depth
  | .array _ items, depth => ArrayItem.listMarks items (listDepth (arrayItems items) depth)
  | .foreign _ _, _ => []

/-- The marks of an expression that may be missing. -/
def Expr.optMarks : Option Expr → Nat → List Mark
  | none, _ => []
  | some e, depth => e.marks depth

/-- The marks of an argument after its comments. -/
def Arg.marks : Arg → Nat → List Mark
  | .mk _ value _, depth => Expr.optMarks value depth

/-- The marks of arguments. -/
def Arg.listMarks : List Arg → Nat → List Mark
  | [], _ => []
  | a :: rest, depth => commentMarks a.comments depth ++ a.marks depth ++ Arg.listMarks rest depth

/-- The marks of an array element after its comments. -/
def ArrayItem.marks : ArrayItem → Nat → List Mark
  | .mk _ key value, depth => Expr.optMarks key depth ++ Expr.optMarks value depth

/-- The marks of array elements. -/
def ArrayItem.listMarks : List ArrayItem → Nat → List Mark
  | [], _ => []
  | i :: rest, depth =>
    commentMarks i.comments depth ++ i.marks depth ++ ArrayItem.listMarks rest depth

end

/-! ## Marks of declarations -/

/-- The marks of an attribute. -/
def Attribute.marks (a : Attribute) (depth : Nat) : List Mark :=
  Arg.listMarks a.args (listDepth (argItems a.args) depth)

/-- The marks of attribute groups. -/
def AttrGroup.listMarks (gs : List AttrGroup) (depth : Nat) : List Mark :=
  gs.flatMap fun g => g.attrs.flatMap (·.marks depth)

/-- The marks of a parameter after its comments. -/
def Param.marks (p : Param) (depth : Nat) : List Mark :=
  AttrGroup.listMarks p.attrGroups depth ++ Expr.optMarks p.default depth

/-- The marks of parameters. -/
def Param.listMarks (ps : List Param) (depth : Nat) : List Mark :=
  ps.flatMap fun p => commentMarks p.comments depth ++ p.marks depth

/-- The marks of a property declaration after its comments. -/
def Property.marks (p : Property) (depth : Nat) : List Mark :=
  AttrGroup.listMarks p.attrGroups depth ++ p.items.flatMap fun i => Expr.optMarks i.default depth

/-- The marks of a constant declaration after its comments. -/
def Constants.marks (c : Constants) (depth : Nat) : List Mark :=
  AttrGroup.listMarks c.attrGroups depth ++ c.items.flatMap fun i => Expr.optMarks i.value depth

/-- The marks of a signature. -/
def Callable.marks (style : Style) (c : Callable) (depth : Nat) : List Mark :=
  AttrGroup.listMarks c.attrGroups depth ++
    Param.listMarks c.params ((c.layout style depth).inside depth)

/-- The marks of the head of a loop. -/
def ForHead.marks (h : ForHead) (depth : Nat) : List Mark :=
  (h.init.flatMap fun e => Expr.optMarks e depth) ++
    (h.cond.flatMap fun e => Expr.optMarks e depth) ++
    h.loop.flatMap fun e => Expr.optMarks e depth

mutual

/-- The marks of a statement after its comments. -/
def Stmt.marks (style : Style) : Stmt → Nat → List Mark
  | .classDecl head members, depth =>
    AttrGroup.listMarks head.attrGroups depth ++ Stmt.listMarks style members (depth + 1)
  | .method head none, depth => (head.callable none).marks style depth
  | .method head (some body), depth =>
    (head.callable (some body)).marks style depth ++ Stmt.listMarks style body (depth + 1)
  | .function head body, depth =>
    (head.callable body).marks style depth ++ Stmt.listMarks style body (depth + 1)
  | .property decl, depth => decl.marks depth
  | .constants decl, depth => decl.marks depth
  | .traitUse _, _ => []
  | .expression _ expr, depth => Expr.optMarks expr depth
  | .ret _ expr, depth => Expr.optMarks expr depth
  | .forLoop head body, depth => head.marks depth ++ Stmt.listMarks style body (depth + 1)
  | .nop _, _ => []
  | .foreign _ _ _, _ => []

/-- The marks of the statements of a body. -/
def Stmt.listMarks (style : Style) : List (Option Stmt) → Nat → List Mark
  | [], _ => []
  | none :: rest, depth => Stmt.listMarks style rest depth
  | some s :: rest, depth =>
    commentMarks s.comments depth ++ s.marks style depth ++ Stmt.listMarks style rest depth

end

end PhpDecl
