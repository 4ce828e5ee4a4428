import PhpDecl.Proofs.Lines
import PhpDecl.Proofs.StyleLikeness

/-!
# Indentation is uniform in the depth

In the plain style a tree rendered deeper is the same text with every line but the first indented
further, as long as no name and no string value of the tree breaks a line.

* `reindent`: a text with more indentation after every line break;
* `reindent_append`, `reindent_of_oneLine`, `reindent_lineBreak`, `reindent_commentLines`: it passes
  through concatenation, keeps single lines, and takes line breaks and comments to a deeper place;
* `depthLikeness`, `depthStyles`: the plain style at two depths;
* **`nodeText_reindent`**: an element rendered deeper is its text reindented, or the same fault.
-/

namespace PhpDecl

open Traced

/-! ## More indentation -/

/-- What a character becomes when the lines after it are indented by `k` levels more. -/
def indentAfter (k : Nat) (c : Char) : List Char :=
  if c = '\n' then '\n' :: List.replicate (4 * k) ' ' else [c]

/-- A text with every line break followed by the indentation of `k` levels. -/
def reindent (k : Nat) (s : String) : String := String.ofList (s.toList.flatMap (indentAfter k))

section Reindent

variable (k : Nat)

theorem reindent_append (a b : String) : reindent k (a ++ b) = reindent k a ++ reindent k b := by
  rw [reindent, String.toList_append, List.flatMap_append, String.ofList_append]
  rfl

theorem reindent_of_oneLine {s : String} (h : '\n' ∉ s.toList) : reindent k s = s := by
  have hs : s.toList.flatMap (indentAfter k) = s.toList := by
    generalize s.toList = cs at h ⊢
    induction cs with
    | nil => rfl
    | cons c cs ih =>
      rw [List.mem_cons, not_or] at h
      rw [List.flatMap_cons, ih h.2, indentAfter, if_neg (Ne.symm h.1)]
      rfl
  rw [reindent, hs, String.ofList_toList]

/-- **A line break becomes a line break of a deeper place.** -/
theorem reindent_lineBreak (d : Nat) : reindent k (lineBreak d) = lineBreak (d + k) := by
  have hb : reindent k "\n" = lineBreak k := by
    apply String.ext
    simp [reindent, indentAfter, lineBreak, indentation, indentWidth, Nat.mul_comm]
  rw [lineBreak, reindent_append, hb, reindent_of_oneLine k (newline_not_mem_indentation d)]
  apply String.ext
  simp only [lineBreak, indentation, String.toList_append, String.toList_ofList, List.append_assoc,
    List.replicate_append_replicate]
  rw [Nat.add_mul, Nat.add_comm]

theorem reindent_join (parts : List String) :
    reindent k (String.join parts) = String.join (parts.map (reindent k)) := by
  induction parts with
  | nil => exact reindent_of_oneLine k List.not_mem_nil
  | cons a parts ih => rw [String.join_cons, reindent_append, ih, List.map_cons, String.join_cons]

/-- **Comments are taken to a deeper place.** -/
theorem reindent_commentLines (cs : List Comment) (d : Nat) :
    reindent k (commentLines cs d) = commentLines cs (d + k) := by
  rw [commentLines_eq_join, commentLines_eq_join, reindent_join, List.map_map]
  refine congrArg String.join (List.map_congr_left fun line hl => ?_)
  obtain ⟨c, _, hl⟩ := List.mem_flatMap.mp hl
  obtain ⟨cs, hcs, rfl⟩ := List.mem_map.mp hl
  have hn : '\n' ∉ (String.ofList cs).toList := by
    rw [String.toList_ofList]
    exact Comment.newline_not_mem_lines hcs
  rw [Function.comp_apply, reindent_append, reindent_lineBreak, reindent_of_oneLine k hn]

theorem reindent_spaced (s : String) : reindent k (spaced s) = spaced (reindent k s) := by
  by_cases hs : s = ""
  · rw [hs]
    rfl
  · have hr : reindent k s ≠ "" := by
      obtain ⟨c, cs, hc⟩ := List.exists_cons_of_ne_nil fun h => hs (String.toList_eq_nil_iff.mp h)
      intro h
      have := congrArg String.toList h
      simp only [reindent, hc, indentAfter, List.flatMap_cons, String.toList_ofList] at this
      split_ifs at this <;> simp at this
    rw [spaced, if_neg hs, spaced, if_neg hr, reindent_append]
    rfl

end Reindent

/-! ## The plain style at two depths -/

/-- Texts at two depths that are `k` levels apart. -/
def depthLikeness (k : Nat) : Likeness where
  Depths d e := e = d + k
  Leaf s := '\n' ∉ s.toList
  Texts a b := b = reindent k a
  deeper h := by omega
  append ha hb := by rw [reindent_append, ha, hb]
  plain h := (reindent_of_oneLine k (Text.newline_not_mem_of_plain h)).symm
  leaf h := (reindent_of_oneLine k h).symm
  literal h := (reindent_of_oneLine k (Text.newline_not_mem_literal h)).symm
  breaks h := by rw [h, reindent_lineBreak]
  comments cs h := by rw [h, reindent_commentLines]

/-- The plain style at two depths that are `k` levels apart. -/
def depthStyles (k : Nat) : StyleLikeness where
  toLikeness := depthLikeness k
  first := .standard
  second := .standard
  Layouts l m := l = m
  opening := by
    rintro d e l _ hd rfl
    cases l with
    | singleLine => exact (depthLikeness k).append ((depthLikeness k).breaks hd) rfl
    | multiLine => exact (depthLikeness k).plain (s := " \x7b") (by decide)
  spacing h := by
    change _ = _ at h ⊢
    rw [h, reindent_spaced]
  trailer := (depthLikeness k).plain (by decide)
  params := by
    intro is js d e _ _ _ _ _ _ h hd
    refine (Likeness.alike_maybeMultiline true h hd).bind fun a b hab => .pure ⟨?_, ?_⟩
    · exact (depthLikeness k).append hab ((depthLikeness k).plain (by decide))
    · change (if _ then _ else _) = _
      rw [Likeness.hasComments_eq h]
  bodies h hd := Likeness.alike_compactBody h hd

/-- **Indentation is uniform in the depth.** In the plain style an element whose names and string
values do not break a line, rendered `k` levels deeper, is its text with `k` levels of indentation
after every line break; if it has no text, the fault is the same. -/
theorem nodeText_reindent {node : Option Node} (h : ∀ n ∈ node, ∀ t ∈ n.texts, '\n' ∉ t.toList)
    (d k : Nat) :
    (nodeText .standard node (d + k : Nat)).result =
      (nodeText .standard node d).result.map (reindent k) := by
  cases hn : Node.isBroken node with
  | true =>
    rw [result_of_isBroken hn, result_of_isBroken hn]
    rfl
  | false =>
    have ha : Alike (fun a b => b = reindent k a) (nodeText .standard node d)
        (nodeText .standard node (d + k : Nat)) :=
      (depthStyles k).alike_node hn h rfl
    unfold Alike at ha
    generalize (nodeText .standard node d).result = r at ha ⊢
    generalize (nodeText .standard node (d + k : Nat)).result = r' at ha ⊢
    cases ha with
    | ok hab => rw [hab]; rfl
    | malformed c => rfl

/-- A method with a commented parameter and a comment of two lines above its only statement, one
level deep, from the same method at the margin. -/
theorem nodeText_reindent_commented_method :
    (nodeText .standard (some (.stmt (.method
        { name := "f", params := [{ comments := [.line "x"], name := "a" }] }
        (some [some (.ret [.doc "b\n* c"] (some (.string [] "d")))])))) (1 : Nat)).result =
      .ok ("function f(\n        // x\n        $a,\n    ) \x7b\n        /** b\n         * c */\n" ++
        "        return 'd';\n    \x7d") :=
  (nodeText_reindent (by decide) 0 1).trans (by decide +kernel)

end PhpDecl
