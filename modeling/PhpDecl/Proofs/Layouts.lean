import Mathlib.Data.List.Forall2
import Mathlib.Tactic.Common
import PhpDecl.Proofs.Results
import PhpDecl.Render.Declaration

/-!
# What a style can choose

At a depth of zero or more, line breaks and comments have texts of their own, and whatever a style
answers is one of two ways to write a list, or one of two ways to write a body.

* `lineBreak`, `Comment.textAt`, `commentLines`: the texts at a natural depth, with
  `newline_natCast` and `result_leadingComments`;
* `Readable`, `askComments_of_readable`, `result_askComments`: lists whose comments can be read,
  as those of arguments, array elements and parameters;
* `written`: a list in a layout;
* **`Style.result_paramList`**: a parameter list is written in one of the layouts, and in several
  lines if it has comments;
* `Style.fits_of_singleLine`: an extended style keeps a list on one line only if it fits;
* **`Style.result_body`**: a body is written compactly or with blank lines.
-/

namespace PhpDecl

open Traced

/-! ## Line breaks and comments -/

/-- A line break followed by the indentation of a depth. -/
def lineBreak (depth : Nat) : String := "\n" ++ indentation depth

theorem newline_natCast (depth : Nat) : newline depth = .ok (lineBreak depth) := by
  rw [newline, if_neg (by omega)]
  rfl

/-- A comment whose lines after the first are indented to a depth. -/
def Comment.textAt (c : Comment) (depth : Nat) : String :=
  (lineBreak depth).intercalate (c.lines.map String.ofList)

/-- Comments at a depth, each on a new line. -/
def commentLines (comments : List Comment) (depth : Nat) : String :=
  String.join (comments.map fun c => lineBreak depth ++ c.textAt depth)

@[simp] theorem commentLines_nil (depth : Nat) : commentLines [] depth = "" := rfl

@[simp] theorem commentLines_cons (c : Comment) (cs : List Comment) (depth : Nat) :
    commentLines (c :: cs) depth = lineBreak depth ++ c.textAt depth ++ commentLines cs depth := by
  rw [commentLines, List.map_cons, String.join_cons]
  rfl

theorem isEmpty_commentLines (cs : List Comment) (depth : Nat) :
    (commentLines cs depth).isEmpty = cs.isEmpty := by
  cases cs with
  | nil => rfl
  | cons c cs =>
    rw [Bool.eq_iff_iff, String.isEmpty_iff, ← String.toList_eq_nil_iff, commentLines_cons,
      lineBreak]
    simp

theorem Comment.lines_ne_nil (c : Comment) : c.lines ≠ [] := by
  unfold Comment.lines
  cases h : (Text.trimChars c.text.toList).splitOn '\n' with
  | nil => exact absurd h (List.splitOn_ne_nil _ _)
  | cons first rest => exact List.cons_ne_nil _ _

theorem append_intercalate {sep : String} {parts : List String} (h : parts ≠ []) :
    sep ++ sep.intercalate parts = String.join (parts.map (sep ++ ·)) := by
  induction parts with
  | nil => exact absurd rfl h
  | cons a rest ih =>
    rw [List.map_cons, String.join_cons]
    by_cases hr : rest = []
    · subst hr
      rw [String.intercalate_singleton, List.map_nil, String.join_nil, String.append_empty]
    · rw [String.intercalate_cons_of_ne_nil hr, ← ih hr, String.append_assoc, String.append_assoc]

theorem commentLines_eq_join (cs : List Comment) (depth : Nat) :
    commentLines cs depth =
      String.join ((cs.flatMap fun c => c.lines.map String.ofList).map (lineBreak depth ++ ·)) := by
  induction cs with
  | nil => rfl
  | cons c cs ih =>
    have h : c.lines.map String.ofList ≠ [] := fun h => c.lines_ne_nil (List.map_eq_nil_iff.mp h)
    rw [commentLines_cons, List.flatMap_cons, List.map_append, String.join_append, ← ih,
      Comment.textAt, append_intercalate h]

/-- **Comments above an element stand on lines of their own.** -/
theorem result_leadingComments (cs : List Comment) (depth : Nat) :
    (leadingComments cs depth).result = .ok (commentLines cs depth) := by
  cases cs with
  | nil => rfl
  | cons c cs =>
    have h : ((c :: cs).flatMap fun c => c.lines.map String.ofList) ≠ [] := by
      simp [c.lines_ne_nil]
    rw [commentLines_eq_join, ← append_intercalate h, leadingComments, if_neg (by simp),
      commentText, newline_natCast]
    rfl

/-! ## Comments behind pointers -/

/-- No item of the list is a null pointer. -/
def Readable (items : List (Option Item)) : Prop := ∀ i, some i ∈ items → i.comments ≠ none

section Pointers

variable {β : Type} {i : Item} {items : List (Option Item)}

@[simp] theorem readComments_some_bind (cs : List Comment) (f : List Comment → Traced β) :
    readComments (some cs) >>= f = f cs := rfl

theorem readComments_eq_ok {c : Option (List Comment)} {cs : List Comment}
    (h : (readComments c).result = .ok cs) : c = some cs := by
  cases c with
  | none => cases h
  | some cs' =>
    cases h
    rfl

theorem Readable.head (h : Readable (some i :: items)) : ∃ cs, i.comments = some cs :=
  Option.ne_none_iff_exists'.mp (h i List.mem_cons_self)

theorem Readable.tail {i : Option Item} (h : Readable (i :: items)) : Readable items :=
  fun j hj => h j (List.mem_cons_of_mem _ hj)

theorem readable_nil : Readable [] := fun _ h => nomatch h

theorem Readable.cons_none (h : Readable items) : Readable (none :: items) := by
  intro i hi
  rcases List.mem_cons.mp hi with hi | hi
  · cases hi
  · exact h i hi

theorem Readable.cons_some {cs : List Comment} (h : Readable items) (hi : i.comments = some cs) :
    Readable (some i :: items) := by
  intro j hj
  rcases List.mem_cons.mp hj with hj | hj
  · cases hj
    simp [hi]
  · exact h j hj

theorem readable_argItems : ∀ args : List Arg, Readable (argItems args)
  | [] => readable_nil
  | _ :: rest => (readable_argItems rest).cons_some rfl

theorem readable_arrayItems : ∀ items : List ArrayItem, Readable (arrayItems items)
  | [] => readable_nil
  | _ :: rest => (readable_arrayItems rest).cons_some rfl

theorem readable_paramItems : ∀ params : List Param, Readable (paramItems params)
  | [] => readable_nil
  | _ :: rest => (readable_paramItems rest).cons_some rfl

theorem hasComments_cons (i : Item) (items : List (Option Item)) :
    hasComments (some i :: items) =
      ((i.comments.any fun cs => !cs.isEmpty) || hasComments items) := List.any_cons

/-- Where everything can be read, a comment is found if there is one. -/
theorem askComments_of_readable (h : Readable items) :
    askComments items = .ok (hasComments items) := by
  induction items with
  | nil => rfl
  | cons i items ih =>
    cases i with
    | none => exact ih h.tail
    | some i =>
      obtain ⟨cs, hcs⟩ := h.head
      rw [askComments, hcs, readComments_some_bind, hasComments_cons, hcs, Option.any_some]
      cases hn : cs.isEmpty with
      | true => exact ih h.tail
      | false => rfl

/-- Where everything can be read, the choice of a layout is plain. -/
theorem maybeMultiline_of_readable (h : Readable items) (trailing : Bool) (depth : Int) :
    maybeMultiline items trailing depth =
      if hasComments items then multilineBlock items trailing depth
      else commaSeparated items depth := by
  rw [maybeMultiline, askComments_of_readable h]
  rfl

theorem asked_of_readable (h : Readable items) :
    (askComments items).result = .ok (hasComments items) := by
  rw [askComments_of_readable h]
  rfl

/-- **The search for a comment tells whether there is one, or meets a null pointer.** -/
theorem result_askComments (items : List (Option Item)) :
    (askComments items).result = .ok (hasComments items) ∨
      (askComments items).result = .error .nullPointer ∧ ¬ Readable items := by
  induction items with
  | nil => exact .inl rfl
  | cons i items ih =>
    cases i with
    | none => exact ih.imp_right fun h => ⟨h.1, fun hr => h.2 hr.tail⟩
    | some i =>
      rw [askComments, hasComments_cons]
      cases hcs : i.comments with
      | none => exact .inr ⟨rfl, fun hr => hr i List.mem_cons_self hcs⟩
      | some cs =>
        rw [readComments_some_bind, Option.any_some]
        cases hn : cs.isEmpty with
        | true => exact ih.imp_right fun h => ⟨h.1, fun hr => h.2 hr.tail⟩
        | false => exact .inl rfl

theorem askComments_eq_ok {b : Bool} (h : (askComments items).result = .ok b) :
    b = hasComments items := by
  rcases result_askComments items with hb | ⟨he, _⟩
  · rw [h] at hb
    exact Except.ok.inj hb
  · rw [h] at he
    cases he

/-- If there is no comment, the search for one has read everything. -/
theorem readable_of_asked (h : (askComments items).result = .ok false) : Readable items := by
  induction items with
  | nil => exact readable_nil
  | cons i items ih =>
    cases i with
    | none => exact (ih h).cons_none
    | some i =>
      obtain ⟨cs, hcs, h⟩ := result_bind_eq_ok.mp h
      split_ifs at h
      · exact (ih h).cons_some (readComments_eq_ok hcs)
      · cases h

/-- Items that are written one per line are all read. -/
theorem readable_of_itemLines {trailing : Bool} {depth : Int} {text : String}
    (h : (itemLines trailing items depth).result = .ok text) : Readable items := by
  induction items generalizing text with
  | nil => exact readable_nil
  | cons i items ih =>
    cases i with
    | none => cases h
    | some i =>
      obtain ⟨cs, hcs, h⟩ := result_bind_eq_ok.mp h
      obtain ⟨_, _, h⟩ := result_bind_eq_ok.mp h
      obtain ⟨_, _, h⟩ := result_bind_eq_ok.mp h
      obtain ⟨_, _, h⟩ := result_bind_eq_ok.mp h
      obtain ⟨_, hm, _⟩ := result_bind_eq_ok.mp h
      exact (ih hm).cons_some (readComments_eq_ok hcs)

end Pointers

/-! ## Lists -/

/-- A list between delimiters in a layout. -/
def written (layout : Layout) (items : List (Option Item)) (depth : Int) : Traced String :=
  match layout with
  | .singleLine => commaSeparated items depth
  | .multiLine => split items depth

/-- A list is decided to be written in one of the layouts. -/
theorem result_decideLayout {items : List (Option Item)}
    (hask : (askComments items).result = .ok (hasComments items)) (column depth : Int) :
    ∃ layout, (hasComments items = true → layout = .multiLine) ∧
      (decideLayout items column depth).result =
        (written layout items depth >>= fun s => pure (s, layout)).result := by
  unfold decideLayout
  by_cases hn : items.isEmpty = true
  · obtain rfl := List.isEmpty_iff.mp hn
    exact ⟨.singleLine, fun h => (nomatch h), rfl⟩
  rw [if_neg hn, result_bind_ok hask]
  split_ifs with hc
  · exact ⟨.multiLine, fun _ => rfl, rfl⟩
  · cases hs : (commaSeparated items depth).result with
    | error e =>
      refine ⟨.singleLine, fun h => absurd h hc, ?_⟩
      rw [result_bind_error hs, written, result_bind_error hs]
    | ok single =>
      rw [result_bind_ok hs]
      split_ifs
      · refine ⟨.singleLine, fun h => absurd h hc, ?_⟩
        rw [written, result_bind_ok hs]
      · exact ⟨.multiLine, fun _ => rfl, rfl⟩

/-- Where the search for comments fails, nothing is written. -/
theorem result_decideLayout_of_error {items : List (Option Item)} {e : Failure}
    (he : (askComments items).result = .error e) (column depth : Int) :
    (decideLayout items column depth).result = .error e := by
  cases items with
  | nil => cases he
  | cons i items => rw [decideLayout, if_neg (by simp), result_bind_error he]

theorem asked_of_decideLayout {items : List (Option Item)} {column depth : Int}
    {p : String × Layout} (h : (decideLayout items column depth).result = .ok p) :
    (askComments items).result = .ok (hasComments items) := by
  rcases result_askComments items with hask | ⟨he, _⟩
  · exact hask
  · rw [result_decideLayout_of_error he] at h
    cases h

namespace Style

/-- **A parameter list is written in one of the layouts**, and in several lines if it has
comments. -/
theorem result_paramList (style : Style) {items : List (Option Item)}
    (hask : (askComments items).result = .ok (hasComments items)) (column tail depth : Int) :
    ∃ layout, (hasComments items = true → layout = .multiLine) ∧
      (style.paramList items column tail depth).result =
        (written layout items depth >>= fun s => pure (s, layout)).result := by
  induction style with
  | standard =>
    by_cases hc : hasComments items = true
    · refine ⟨.multiLine, fun _ => rfl, ?_⟩
      rw [paramList, maybeMultiline, result_bind, result_bind_ok hask, if_pos hc, if_pos hc,
        written, result_bind]
      rfl
    · refine ⟨.singleLine, fun h => absurd h hc, ?_⟩
      rw [paramList, maybeMultiline, result_bind, result_bind_ok hask, if_neg hc, if_neg hc,
        written, result_bind]
  | extended next _ =>
    obtain ⟨layout, hc, hd⟩ := result_decideLayout hask column depth
    rw [paramList]
    cases hw : (written layout items depth).result with
    | error e =>
      rw [result_bind_error hw] at hd
      exact ⟨layout, hc, by rw [result_bind_error hd, result_bind_error hw]⟩
    | ok text =>
      rw [result_bind_ok hw] at hd
      rw [result_bind_ok hd]
      dsimp only
      split_ifs with h1 h2
      · refine ⟨.multiLine, fun _ => rfl, ?_⟩
        rw [written, result_bind, result_bind]
        rfl
      · refine ⟨layout, hc, ?_⟩
        rw [result_note_bind, result_bind_ok hw]
      · exact ⟨layout, hc, by rw [result_bind_ok hw]⟩
  | recorded inner ih =>
    rw [paramList, result_note_bind]
    exact ih

/-- Where the search for comments fails, every style fails. -/
theorem result_paramList_of_error (style : Style) {items : List (Option Item)} {e : Failure}
    (he : (askComments items).result = .error e) (column tail depth : Int) :
    (style.paramList items column tail depth).result = .error e := by
  induction style with
  | standard =>
    rw [paramList, maybeMultiline, result_bind, result_bind_error he]
    rfl
  | extended next _ =>
    exact result_bind_error (result_decideLayout_of_error he column depth) _
  | recorded inner ih =>
    rw [paramList, result_note_bind]
    exact ih

theorem asked_of_paramList {style : Style} {items : List (Option Item)} {column tail depth : Int}
    {p : String × Layout} (h : (style.paramList items column tail depth).result = .ok p) :
    (askComments items).result = .ok (hasComments items) := by
  rcases result_askComments items with hask | ⟨he, _⟩
  · exact hask
  · rw [style.result_paramList_of_error he] at h
    cases h

/-- **An extended style keeps a list on one line only if it has no comments and fits.** -/
theorem fits_of_singleLine {next : Style} {items : List (Option Item)} {column tail depth : Int}
    {text : String} (hn : items ≠ [])
    (h : ((extended next).paramList items column tail depth).result = .ok (text, .singleLine)) :
    (commaSeparated items depth).result = .ok text ∧ fits column text tail = true := by
  rw [paramList] at h
  obtain ⟨⟨list, layout⟩, hd, h⟩ := result_bind_eq_ok.mp h
  have hne : (!items.isEmpty) = true := by simpa using hn
  dsimp only at h
  split_ifs at h with h1 h2
  · obtain ⟨_, _, h⟩ := result_bind_eq_ok.mp h
    rw [result_note_bind] at h
    cases h
  · subst h2
    rw [result_note_bind] at h
    cases h
  · cases h
    simp only [decide_true, hne, Bool.and_self, Bool.true_and, Bool.not_eq_true,
      Bool.not_eq_false'] at h1
    refine ⟨?_, h1⟩
    obtain ⟨layout, _, hw⟩ := result_decideLayout (asked_of_decideLayout hd) column depth
    rw [hd] at hw
    obtain ⟨s, hs, h⟩ := result_bind_eq_ok.mp hw.symm
    cases h
    exact hs

/-- **A body is written compactly or with blank lines between its members.** -/
theorem result_body (style : Style) (members : List (Option Member)) (depth : Int) :
    (style.body members depth).result = (compactBody members depth).result ∨
      (style.body members depth).result = (splitBody members depth).result := by
  induction style with
  | standard => exact .inl rfl
  | extended next ih =>
    rw [body]
    split_ifs
    · rw [result_note_bind]
      exact .inr rfl
    · exact ih
  | recorded inner ih =>
    rw [body, result_note_bind]
    exact ih

end Style

end PhpDecl
