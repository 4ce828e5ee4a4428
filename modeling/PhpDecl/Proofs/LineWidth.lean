import PhpDecl.Proofs.Callable
import PhpDecl.Proofs.Likeness

/-!
# The width of a signature kept on one line

The wrapping style keeps a parameter list on the line of the name only if the line up to the return
type fits. The semicolon of a method that is only declared comes after that and is not counted.

* `lineLikeness`, `plainLikeness`: printed lists are plain or broken, printed types are plain;
* `EndsAtLine`, `endsAtLine_attrLines`, `columnAfter_attrs`: where the words of a declaration start;
* `Callable.line`, `Callable.lineEnd`, `IsLine`: the line of a signature, what ends it, and a line
  of a text;
* **`Callable.signature_singleLine`**: the width of the line, as a word of 64 bits, is within the
  limit;
* **`Stmt.width_signatureLine`**: the printed line is within the limit unless it is the line of a
  declared method that fills the limit without its semicolon.
-/

namespace PhpDecl

open Traced

/-! ## Plain lists and types -/

theorem newline_mem_lineBreak (d : Nat) : '\n' ∈ (lineBreak d).toList := by
  rw [lineBreak, String.toList_append]
  exact List.mem_append_left _ List.mem_cons_self

/-- Plain text, or text with a line break, from plain names and values. -/
def lineLikeness : Likeness where
  Depths d e := d = e
  Leaf := Text.Plain
  Texts a b := a = b ∧ ('\n' ∉ a.toList → Text.Plain a)
  deeper h := congrArg (· + 1) h
  append := by
    rintro a b _ _ ⟨rfl, ha⟩ ⟨rfl, hb⟩
    refine ⟨rfl, fun h => ?_⟩
    rw [String.toList_append, List.mem_append, not_or] at h
    exact (ha h.1).append (hb h.2)
  plain h := ⟨rfl, fun _ => h⟩
  leaf h := ⟨rfl, fun _ => h⟩
  literal h := ⟨rfl, fun _ => Text.plain_literal h⟩
  breaks := by
    rintro d _ rfl
    exact ⟨rfl, fun h => absurd (newline_mem_lineBreak d) h⟩
  comments := by
    rintro d _ cs rfl
    refine ⟨rfl, fun h => ?_⟩
    cases cs with
    | nil =>
      rw [commentLines_nil]
      decide
    | cons c cs =>
      rw [commentLines_cons, String.toList_append, String.toList_append] at h
      exact absurd (List.mem_append_left _ (List.mem_append_left _ (newline_mem_lineBreak d))) h

/-- Plain text without line breaks, from plain names and values. -/
def plainLikeness : Likeness where
  Depths _ _ := False
  Leaf := Text.Plain
  Texts a b := a = b ∧ Text.Plain a
  deeper h := h
  append := by
    rintro a b _ _ ⟨rfl, ha⟩ ⟨rfl, hb⟩
    exact ⟨rfl, ha.append hb⟩
  plain h := ⟨rfl, h⟩
  leaf h := ⟨rfl, h⟩
  literal h := ⟨rfl, Text.plain_literal h⟩
  breaks h := h.elim
  comments _ h := h.elim

theorem plain_returnAfter {t : Option TypeExpr} {ret : String}
    (hl : ∀ s ∈ TypeExpr.optTexts t, Text.Plain s) (h : (returnAfter t).result = .ok ret) :
    Text.Plain ret :=
  ((plainLikeness.alike_returnAfter t hl).self h).2

/-- **Parameters written on one line without a line break are plain.** -/
theorem plain_commaSeparated {params : List Param} {d : Nat} {list : String}
    (hl : ∀ s ∈ params.flatMap Param.texts, Text.Plain s)
    (h : (commaSeparated (paramItems params) d).result = .ok list) (hn : '\n' ∉ list.toList) :
    Text.Plain list := by
  have ha := Likeness.alike_commaSeparated (d := d) (e := d)
    (lineLikeness.alike_paramItems params hl) rfl
  exact (ha.self h).2 hn

/-! ## Where a line starts -/

theorem toList_indentation (d : Nat) :
    (indentation d).toList = List.replicate (d * indentWidth) ' ' :=
  String.toList_ofList

theorem plain_indentation (d : Nat) : Text.Plain (indentation d) := by
  intro c hc
  rw [toList_indentation] at hc
  rw [List.eq_of_mem_replicate hc]
  rfl

/-- Text after which a line of the depth starts. -/
def EndsAtLine (d : Nat) (s : String) : Prop := s = "" ∨ ∃ above, s = above ++ lineBreak d

/-- Attributes end with a line break. -/
theorem endsAtLine_attrLines {gs : List AttrGroup} {d : Nat} {attrs : String}
    (h : (attrLines gs d).result = .ok attrs) : EndsAtLine d attrs := by
  induction gs generalizing attrs with
  | nil =>
    cases h
    exact .inl rfl
  | cons g gs ih =>
    rw [attrLines, newline_natCast] at h
    obtain ⟨text, _, h⟩ := result_bind_eq_ok.mp h
    rw [result_bind_ok (result_ok _)] at h
    obtain ⟨more, hm, h⟩ := result_bind_eq_ok.mp h
    cases h
    rcases ih hm with rfl | ⟨above, rfl⟩
    · exact .inr ⟨text, String.append_empty⟩
    · exact .inr ⟨text ++ lineBreak d ++ above, String.append_assoc.symm⟩

/-- **The words after the attributes start at the indentation of the depth.** -/
theorem columnAfter_attrs {attrs words : String} {d : Nat}
    (ha : EndsAtLine d attrs) (hw : Text.Plain words) :
    columnAfter d (attrs ++ words) = Text.width (indentation d ++ words) := by
  have hn : '\n' ∉ words.toList := Text.newline_not_mem_of_plain hw
  have hp : Text.Plain (indentation d ++ words) := (plain_indentation d).append hw
  rcases ha with rfl | ⟨above, rfl⟩
  · rw [String.empty_append, columnAfter, if_neg hn, Text.width_of_plain hp, Text.width_of_plain hw,
      String.toList_append, toList_indentation, List.length_append, List.length_replicate]
    push_cast
    rfl
  · have hne : ∀ c ∈ (indentation d ++ words).toList.reverse, (c != '\n') = true := by
      intro c hc
      have := hp c (List.mem_reverse.mp hc)
      rw [bne_iff_ne]
      rintro rfl
      exact nomatch this
    have hl : (above ++ lineBreak d ++ words).toList =
        above.toList ++ '\n' :: (indentation d ++ words).toList := by
      simp [lineBreak]
    have hm : '\n' ∈ (above ++ lineBreak d ++ words).toList := by
      rw [hl]
      exact List.mem_append_right _ List.mem_cons_self
    rw [columnAfter, if_pos hm, hl, List.reverse_append, List.reverse_cons, List.append_assoc,
      List.takeWhile_append_of_pos hne]
    simp [Text.width]

/-! ## The line of a signature -/

/-- A text between line breaks, or the ends, of another one. -/
def IsLine (line text : String) : Prop :=
  '\n' ∉ line.toList ∧ ∃ above below, text = above ++ line ++ below ∧
    (above = "" ∨ ∃ before, above = before ++ "\n") ∧ (below = "" ∨ ∃ after, below = "\n" ++ after)

namespace Callable

/-- The line of a signature whose parameters are on one line. -/
def line (c : Callable) (d : Nat) (list ret : String) : String :=
  indentation d ++ c.words ++ "(" ++ list ++ ")" ++ ret

/-- What follows on the line of the signature. -/
def lineEnd (c : Callable) : String := if c.body.isNone then ";" else ""

variable {c : Callable} {d : Nat} {list ret : String}

theorem plain_words (h : Text.Plain c.name) : Text.Plain c.words :=
  ((c.flags.plain_text.append (by decide)).append (Likeness.plain_refMark c.byRef)).append h

theorem plain_line (hw : Text.Plain c.words) (hl : Text.Plain list) (hr : Text.Plain ret) :
    Text.Plain (c.line d list ret) :=
  (((((plain_indentation d).append hw).append (by decide)).append hl).append (by decide)).append hr

theorem plain_lineEnd (c : Callable) : Text.Plain c.lineEnd := by
  unfold lineEnd
  split_ifs <;> decide

/-- The columns that decide about wrapping add up to the line of the signature. -/
theorem width_line_eq (hw : Text.Plain c.words) (hl : Text.Plain list) (hr : Text.Plain ret) :
    (Text.width (c.line d list ret) : Int) =
      Text.width (indentation d ++ c.words) + delimiters + Text.width list + Text.width ret := by
  rw [Text.width_of_plain (plain_line hw hl hr), Text.width_of_plain hl, Text.width_of_plain hr,
    Text.width_of_plain ((plain_indentation d).append hw), line, delimiters]
  simp only [String.toList_append, List.length_append]
  push_cast
  change _ + 1 + _ + 1 + _ = _
  omega

/-- **A signature is kept on one line only if the line fits**, as far as a word of 64 bits can
tell. -/
theorem signature_singleLine {next : Style} {sig : String} (hp : c.params ≠ [])
    (hplain : ∀ t ∈ c.lineTexts, Text.Plain t)
    (h : (c.signature (.extended next) d).result = .ok (sig, .singleLine)) :
    ∃ attrs list ret, (commaSeparated (paramItems c.params) d).result = .ok list ∧
      (returnAfter c.returns).result = .ok ret ∧ EndsAtLine d attrs ∧
      sig = attrs ++ c.words ++ "(" ++ list ++ ")" ++ ret ∧ Text.Plain (c.line d list ret) ∧
      wrapColumn (Text.width (c.line d list ret)) ≤ maxLineWidth := by
  simp only [lineTexts, List.cons_append, List.forall_mem_cons, List.forall_mem_append] at hplain
  obtain ⟨hname, hparams, hreturns⟩ := hplain
  obtain ⟨attrs, list, ret, ha, hr, hl, rfl⟩ := signature_eq_ok h
  have hne : paramItems c.params ≠ [] := fun h => hp (List.map_eq_nil_iff.mp h)
  obtain ⟨hlist, hfits⟩ := Style.fits_of_singleLine hne hl
  rw [fits, Bool.and_eq_true, decide_eq_true_eq, Bool.not_eq_true', List.contains_eq_mem,
    decide_eq_false_iff_not] at hfits
  have hw : Text.Plain c.words := plain_words hname
  have hpl : Text.Plain list := plain_commaSeparated hparams hlist hfits.1
  have hpr : Text.Plain ret := plain_returnAfter hreturns hr
  have hattrs := endsAtLine_attrLines ha
  refine ⟨attrs, list, ret, hlist, hr, hattrs, rfl, plain_line hw hpl hpr, ?_⟩
  rw [width_line_eq hw hpl hpr, ← columnAfter_attrs hattrs hw]
  exact hfits.2

/-- The line of a signature ends where the signature does, or after the semicolon. -/
theorem isLine_line {style : Style} {attrs ending : String} (ha : EndsAtLine d attrs)
    (hl : Text.Plain (c.line d list ret)) (he : c.Ending style d .singleLine ending) :
    IsLine (c.line d list ret ++ c.lineEnd)
      (indentation d ++ (attrs ++ c.words ++ "(" ++ list ++ ")" ++ ret ++ ending)) := by
  refine ⟨Text.newline_not_mem_of_plain (hl.append c.plain_lineEnd), ?_⟩
  have hbelow : ∃ below, ending = c.lineEnd ++ below ∧
      (below = "" ∨ ∃ after, below = "\n" ++ after) := by
    unfold Ending at he
    unfold lineEnd
    split at he
    · rename_i hb
      exact ⟨"", by rw [hb]; exact he, .inl rfl⟩
    · rename_i stmts hb
      obtain ⟨inner, _, rfl⟩ := he
      refine ⟨_, by rw [hb]; exact String.empty_append.symm,
        .inr ⟨indentation d ++ "\x7b" ++ inner ++ lineBreak d ++ "\x7d", ?_⟩⟩
      rw [opener, lineBreak]
      simp only [String.append_assoc]
  obtain ⟨below, rfl, hbelow⟩ := hbelow
  rcases ha with rfl | ⟨above, rfl⟩
  · refine ⟨"", below, ?_, .inl rfl, hbelow⟩
    simp only [line, String.append_assoc, String.empty_append]
  · refine ⟨indentation d ++ above ++ "\n", below, ?_, .inr ⟨_, rfl⟩, hbelow⟩
    simp only [line, lineBreak, String.append_assoc]

end Callable

theorem le_maxLineWidth_iff {n : Nat} (h : wrapColumn n ≤ maxLineWidth) :
    (n : Int) ≤ maxLineWidth ↔ n < 0x8000000000000000 := by
  unfold wrapColumn maxLineWidth at *
  rw [Int.bmod_def] at h
  split_ifs at h <;> omega

/-- **A signature kept on one line is within the limit, unless its semicolon is not.** Where the
wrapping style keeps the parameters on one line, the printed line that carries them is within the
limit except for a declared method that fills the line before its semicolon, and as long as a word
of 64 bits holds its width. -/
theorem Stmt.width_signatureLine (next : Style) (d : Nat) {s : Stmt} {c : Callable} {text : String}
    (hs : s.callable? = some c) (hp : c.params ≠ []) (hplain : ∀ t ∈ c.lineTexts, Text.Plain t)
    (h : (s.render (.extended next) d).result = .ok text)
    (hl : c.layout (.extended next) d = .singleLine) :
    ∃ list ret, (commaSeparated (paramItems c.params) d).result = .ok list ∧
      (returnAfter c.returns).result = .ok ret ∧
      IsLine (c.line d list ret ++ c.lineEnd) (indentation d ++ text) ∧
      (Text.width (c.line d list ret ++ c.lineEnd) ≤ maxLineWidth ↔
        Text.width (c.line d list ret) < 0x8000000000000000 ∧
          ¬ (c.body = none ∧ Text.width (c.line d list ret) = maxLineWidth)) := by
  obtain ⟨sig, layout, ending, hsig, he, rfl⟩ := Stmt.render_callable hs h
  obtain rfl : layout = .singleLine := (Callable.layout_of_signature hsig).symm.trans hl
  obtain ⟨attrs, list, ret, hlist, hret, hattrs, rfl, hline, hwrap⟩ :=
    Callable.signature_singleLine hp hplain hsig
  refine ⟨list, ret, hlist, hret, Callable.isLine_line hattrs hline he, ?_⟩
  have hwidth : Text.width (c.line d list ret ++ c.lineEnd) =
      Text.width (c.line d list ret) + c.lineEnd.toList.length := by
    rw [Text.width_of_plain (hline.append c.plain_lineEnd), Text.width_of_plain hline,
      String.toList_append, List.length_append]
  have hle := le_maxLineWidth_iff hwrap
  rw [hwidth]
  unfold maxLineWidth at hle ⊢
  cases hb : c.body with
  | none =>
    have hend : c.lineEnd.toList.length = 1 := by
      rw [Callable.lineEnd, hb]
      rfl
    rw [hend]
    simp only [true_and]
    push_cast
    omega
  | some stmts =>
    have hend : c.lineEnd.toList.length = 0 := by
      rw [Callable.lineEnd, hb]
      rfl
    rw [hend, Nat.add_zero]
    simp only [reduceCtorEq, false_and, not_false_eq_true, and_true]
    exact hle

/-- A declared method that fills the line takes one column more with its semicolon. -/
theorem Stmt.width_signatureLine_declared :
    ∃ text line, (Stmt.render (.extended .standard) (.method
        { name := String.ofList (List.replicate 107 'a'), params := [{ name := "p" }] } none)
        (0 : Nat)).result = .ok text ∧ IsLine line (indentation 0 ++ text) ∧
      ¬ Text.width line ≤ maxLineWidth := by
  obtain ⟨text, ht⟩ := Traced.succeeds_iff.mp (show (Stmt.render (.extended .standard) (.method
    { name := String.ofList (List.replicate 107 'a'), params := [{ name := "p" }] } none)
    (0 : Nat)).succeeds = true by decide +kernel)
  obtain ⟨list, ret, hlist, hret, hline, hwidth⟩ :=
    Stmt.width_signatureLine .standard 0 rfl (by decide) (by decide) ht (by decide +kernel)
  refine ⟨text, _, ht, hline, fun h => ?_⟩
  cases hlist
  cases hret
  refine (hwidth.mp h).2 ⟨rfl, ?_⟩
  rw [Text.width_of_plain (by decide +kernel)]
  decide +kernel

end PhpDecl
